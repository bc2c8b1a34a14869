import Lexicon.Http
import Lexicon.Main
import Lexicon.Session
import Lexicon.Proofs.Scan.Cut
import Lexicon.Proofs.Scan.Sound
import Lexicon.Proofs.Frontier
import Lexicon.Proofs.Scan.Run
import Lexicon.Proofs.Segmentation
import Lexicon.Proofs.Coverage
import Lexicon.Proofs.LongestMatch
import Lexicon.Proofs.Pattern.Alphabet
import Lexicon.Proofs.Pattern.Keyword
import Lexicon.Proofs.Sweep
import Lexicon.Proofs.GapSurvey
import Lexicon.Proofs.Build
import Lexicon.Proofs.Bundled.Gap
import Lexicon.Proofs.Composition
import Lexicon.Proofs.Stage.Splice
import Lexicon.Proofs.Stage.Merge
import Lexicon.Proofs.Stage.Table
import Lexicon.Proofs.Discard
import Lexicon.Proofs.Characters
import Lexicon.Proofs.Bundled.Markup
import Lexicon.Proofs.Bundled.Reappearance
import Lexicon.Proofs.Stability
import Lexicon.Proofs.Likeness
import Lexicon.Proofs.Bundled.Gapless
import Lexicon.Proofs.Bundled.PlainText
import Lexicon.Proofs.Stage.TableLines
import Lexicon.Proofs.Lexer
import Lexicon.Proofs.Service
import Lexicon.Proofs.CommandLine
import Lexicon.Proofs.Session
import Lexicon.Proofs.Stage.Relabel
import Lexicon.Proofs.Stage.TableBreaks
import Lexicon.Proofs.Stage.TableOrphans
import Lexicon.Proofs.Bundled.Lines
import Lexicon.Proofs.Pattern.Denotation
import Lexicon.Proofs.Lexeme
import Lexicon.Proofs.Bundled.JsonText
import Lexicon.Proofs.Bundled.EscapedText
import Lexicon.Proofs.Bundled.LongBrackets
import Lexicon.Proofs.Pattern.Meaning
import Lexicon.Proofs.Pattern.Reading
import Lexicon.Proofs.Pattern.Anchoring
import Lexicon.Proofs.Declaration
import Lexicon.Proofs.Stage.Spliced
import Lexicon.Proofs.HtmlSpans
import Lexicon.Proofs.Pattern.Truncation.Escape
import Lexicon.Proofs.Pattern.Truncation.Bracket
import Lexicon.Proofs.Pattern.Truncation.Piece
import Lexicon.Proofs.Pattern.Stray
import Lexicon.Proofs.Stage.Merged
import Lexicon.Proofs.Listing
import Lexicon.Proofs.DiscardParam
import Lexicon.Proofs.Settings.Precedence
import Lexicon.Proofs.CoverCheck
import Lexicon.Proofs.Loop.Scanner
