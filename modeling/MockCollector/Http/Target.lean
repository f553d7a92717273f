/-!
# Request targets

What a request line names: a path alone, or a whole address with a scheme and an authority in front of the
path, or an authority alone.

* `Target.path t`   the path of `t`; what follows a question mark or a hash does not belong to it.
-/

namespace MockCollector.Target

/-- ends an authority, and everything but a slash ends a path -/
def isDelimiter (c : Char) : Bool := c = '/' ∨ c = '?' ∨ c = '#'

def upToQuery (cs : List Char) : List Char := cs.takeWhile fun c => c = '/' ∨ !isDelimiter c

/-- a scheme may begin with any of its characters, and a tilde is one of them -/
def isSchemeChar (c : Char) : Bool := c.isAlphanum ∨ c = '+' ∨ c = '-' ∨ c = '.' ∨ c = '~'

/-- what follows a scheme and an authority -/
def afterAuthority? (cs : List Char) : Option (List Char) :=
  match cs.dropWhile isSchemeChar with
  | ':' :: '/' :: '/' :: rest => some (rest.dropWhile (!isDelimiter ·))
  | _ => none

/-- an address that stops at its authority means the root -/
def path (target : String) : String :=
  match target.toList with
  | '/' :: cs => String.ofList ('/' :: upToQuery cs)
  | ['*'] => "*"
  | cs =>
    match (afterAuthority? cs).map upToQuery with
    | none => ""
    | some [] => "/"
    | some p => String.ofList p

end MockCollector.Target
