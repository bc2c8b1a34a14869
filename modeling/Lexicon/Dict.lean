namespace Lexicon

abbrev Dict (α : Type) : Type := List (String × α)

namespace Dict

variable {α β : Type}

def insert (name : String) (a : α) : Dict α → Dict α
  | [] => [(name, a)]
  | e :: rest =>
    if name < e.1 then (name, a) :: e :: rest
    else if name = e.1 then (name, a) :: rest
    else e :: insert name a rest

def get? (d : Dict α) (name : String) : Option α := d.lookup name

def names (d : Dict α) : List String := d.map (·.1)

def ofList (l : List (String × α)) : Dict α := l.foldl (fun d e => d.insert e.1 e.2) []

def sortedNames (l : List String) : List String := names (ofList (l.map (·, ())))

end Dict

end Lexicon
