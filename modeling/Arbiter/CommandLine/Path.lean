namespace Arbiter.Path

def steps (path : String) : List String := path.splitOn "/"

/-- The steps that lead somewhere. -/
def names (path : String) : List String := (steps path).filter fun s => s ≠ "" ∧ s ≠ "."

/-- The extension of the file's name: what follows its last point, if something comes before. -/
def extension? (path : String) : Option String :=
  match (names path).getLast? with
  | none | some ".." => none
  | some name =>
    let cs := name.toList.reverse
    match cs.dropWhile (· ≠ '.') with
    | [] | [_] => none
    | _ => some (String.ofList (cs.takeWhile (· ≠ '.')).reverse)

end Arbiter.Path
