import MockCollector.Log.Directive
/-!
# Log filters

Which lines of the log are shown.  A filter is a list of directives with commas between them.

* `LogLine`             what a filter looks at in a line;
* `Filter.parse`        reads a filter; an empty one shows errors only;
* `Filter.allows f l`   whether a line is shown.

Of the directives that are about a line the one with the longest target decides; of equal targets, one
that names a field, the last in alphabetical order; and of equal fields, the last that is written.  No line
is written inside a span, nor is the value of a field known when it is decided about, so a directive that
asks for either is about none.
-/

namespace MockCollector

structure LogLine where
  level : Level
  /-- where it comes from -/
  target : String
  /-- the names of what it carries -/
  fields : List String
  deriving DecidableEq, Repr

namespace Directive

def isAbout (d : Directive) (l : LogLine) : Bool :=
  d.span.isNone && d.target.all (fun t => t.toList.isPrefixOf l.target.toList)
    && d.field.all fun f => !f.hasValue && l.fields.contains f.name

/-- longer targets are more particular, and no target is the least so -/
def weight (d : Directive) : Nat :=
  match d.target with
  | none => 0
  | some t => t.utf8ByteSize + 1

/-- whether `d`, which is written behind `e`, decides in its place -/
def outranks (d e : Directive) : Bool :=
  if d.weight ≠ e.weight then e.weight < d.weight
  else
    match d.field, e.field with
    | _, none => true
    | none, some _ => false
    | some f, some g => g.name ≤ f.name

end Directive

structure Filter where
  directives : List Directive
  deriving DecidableEq, Repr

namespace Filter

/-- errors are shown if nothing is said -/
def standard : Filter := ⟨[.ofVerbosity Level.error.rank]⟩

def parse (s : String) : Except DirectiveError Filter :=
  let parts := (s.toList.splitOn ',').filter (!·.isEmpty)
  if parts.isEmpty then .ok standard else (parts.mapM Directive.parse).map Filter.mk

/-- the directive that decides about a line -/
def deciding? (f : Filter) (l : LogLine) : Option Directive :=
  (f.directives.filter fun d => d.isAbout l).foldl (fun best d =>
    match best with
    | none => some d
    | some e => if d.outranks e then some d else some e) none

def allows (f : Filter) (l : LogLine) : Bool :=
  (f.deciding? l).any fun d => l.level.rank ≤ d.verbosity

end Filter

end MockCollector
