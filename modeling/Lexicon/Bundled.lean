import Lexicon.Language
import Lexicon.Pattern.Unicode

namespace Lexicon.Bundled

def ash : List Clause :=
  [.metadata "name" "Ash", .metadata "extension" "ash",
    .category "comment" ["#[^\\n]*"],
    .category "string" ["\"(?:[^\"\\\\\\n]|\\\\.)*\""],
    .category "float" ["\\d+\\.\\d+"],
    .category "integer" ["\\d+"],
    .wrongCategory "malformed_number" ["\\d+[A-Za-z_][A-Za-z0-9_]*"],
    .category "keyword"
      ["if|then|else|elif|end|while|do|for|in|return|fun|var|and|or|not|true|false|nil|break"],
    .category "special" ["writeln|write|readln|len|str|int|float"],
    .category "identifier" ["[A-Za-z_][A-Za-z0-9_]*"],
    .category "operator" ["==|!=|<=|>=|[-+*/%<>=!]"],
    .category "separator" ["[(),\\[\\]\x7b\x7d.:;]"],
    .category "newline" ["\\n"],
    .category "blank" ["[ \\t\\r]+"]]

def bnf : List Clause :=
  [.metadata "name" "BNF", .metadata "extension" "bnf",
    .category "comment" [";[^\\n]*"],
    .category "nonterminal" ["<[A-Za-z][A-Za-z0-9_ -]*>"],
    .category "terminal" ["\"[^\"\\n]*\"", "'[^'\\n]*'"],
    .category "definition" ["::="],
    .category "operator" ["[|\\[\\]\x7b\x7d()*+?]"],
    .category "blank" ["\\s+"]]

/-- A number that is cut short inside its fraction or exponent is a word of a wrong category, so that
the scanner reaches the rest of it. -/
def json : List Clause :=
  [.metadata "name" "JSON", .metadata "extension" "json",
    .category "string"
      ["\"(?:[^\"\\\\\\n]|\\\\(?:[\"\\\\/bfnrt]|u[0-9a-fA-F]\x7b4\x7d))*\""],
    .category "number" ["-?(?:0|[1-9]\\d*)(?:\\.\\d+)?(?:[eE][+-]?\\d+)?"],
    .wrongCategory "malformed_number" ["-?\\d+\\.", "-?\\d+(?:\\.\\d+)?[eE][+-]?"],
    .category "keyword" ["true|false|null"],
    .category "punctuation" ["[\x7b\x7d\\[\\],:]"],
    .category "blank" ["\\s+"]]

/-- Long comments and long strings match their own unfinished beginnings, so that the scanner reaches
their end over any number of lines. -/
def lua : List Clause :=
  [.metadata "name" "Lua", .metadata "extension" "lua",
    .category "comment"
      ["--\\[\\[(?:[^\\]]|\\][^\\]])*\\]\x7b0,2\x7d",
        "--(?:[^\\[\\n][^\\n]*|\\[(?:[^\\[\\n][^\\n]*)?)?"],
    .category "string"
      ["\"(?:[^\"\\\\\\n]|\\\\.)*\"", "'(?:[^'\\\\\\n]|\\\\.)*'",
        "\\[\\[(?:[^\\]]|\\][^\\]])*\\]\x7b0,2\x7d"],
    .category "number"
      ["0[xX][0-9a-fA-F]+", "\\d+(?:\\.\\d+)?(?:[eE][+-]?\\d+)?", "\\.\\d+(?:[eE][+-]?\\d+)?"],
    .wrongCategory "malformed_number"
      ["\\d+[A-Za-z_][A-Za-z0-9_]*", "\\d+(?:\\.\\d+)?[eE][+-]?"],
    .category "keyword"
      ["and|break|do|else|elseif|end|false|for|function|goto|if|in|local|nil|not|or|" ++
        "repeat|return|then|true|until|while"],
    .category "identifier" ["[A-Za-z_][A-Za-z0-9_]*"],
    .category "operator"
      ["\\.\\.\\.|\\.\\.|==|~=|<=|>=|<<|>>|//|::|[-+*/%^#&~|<>=()\x7b\x7d\\[\\];:,.]"],
    .category "blank" ["\\s+"]]

def markupPipeline : Pipeline :=
  [.splice {
      literal := "normal", always := ["escape"], unlessLineStart := ["title"]
      lineBreaks := ["newline", "paragraph"] },
    .merge "normal",
    .table {}]

def markup : List Clause :=
  [.metadata "name" "Markup", .metadata "extension" "mkp",
    .category "table_header_line" ["\\|(?:-\x7b2,\x7d\\|?)+"],
    .category "table" ["\\|"],
    .category "paragraph" ["\\n\x7b2,\x7d"],
    .category "newline" ["\\n"],
    .category "escape" ["\\\\[^\\n]"],
    .category "bold" ["\\*\\*"],
    .category "italic" ["//"],
    .category "code" ["@@"],
    .category "title" ["#\x7b1,6\x7d"],
    .category "normal" ["[^\\n|*/@\\\\#]+", "[*/@\\\\]"],
    .pipeline markupPipeline]

def python : List Clause :=
  [.metadata "name" "Python", .metadata "extension" "py",
    .category "comment" ["#[^\\n]*"],
    .category "string" ["\"(?:[^\"\\\\\\n]|\\\\.)*\"", "'(?:[^'\\\\\\n]|\\\\.)*'"],
    .category "number"
      ["0[xX][0-9a-fA-F_]+", "0[oO][0-7_]+", "0[bB][01_]+",
        "\\d[\\d_]*(?:\\.\\d+)?(?:[eE][+-]?\\d+)?j?", "\\.\\d+(?:[eE][+-]?\\d+)?j?"],
    .wrongCategory "malformed_number" ["\\d+(?:\\.\\d+)?[eE][+-]?"],
    .category "keyword"
      ["False|None|True|and|as|assert|async|await|break|class|continue|def|del|elif|else|" ++
        "except|finally|for|from|global|if|import|in|is|lambda|nonlocal|not|or|pass|raise|" ++
        "return|try|while|with|yield"],
    .category "builtin"
      ["print|len|range|int|str|float|list|dict|set|tuple|open|isinstance|enumerate|zip|map|" ++
        "filter|sorted|sum|min|max|abs|super"],
    .category "identifier" ["[A-Za-z_][A-Za-z0-9_]*"],
    .category "operator"
      ["\\*\\*=?|//=?|>>=?|<<=?|->|:=|\\.\\.\\.|[-+*/%@&|^<>=!]=?|~"],
    .category "separator" ["[()\\[\\]\x7b\x7d,:;.]"],
    .category "newline" ["\\r?\\n"],
    .category "blank" ["[ \\t]+|\\\\\\r?\\n"]]

end Lexicon.Bundled
