import MockCollector.Message.Basic
import MockCollector.Number.Places
import MockCollector.Text.Quoted
/-!
# Summaries

How what is stored appears in dumps and messages.

* `tagsText most tags`   the first `most` of `tags`, and how many more there are;
* `Report.summary`       who sent a report, and the names of its spans;
* `Span.summary`         the name of a span with a few of its tags.

Names and tokens in the summary of a report are quoted; the keys and values of tags stand as they are.
-/

namespace MockCollector

/-- what stands for something that a report lacks -/
def absent : String := "<none>"

/-- a double has six decimals here -/
def TagValue.text : TagValue → String
  | .string s => "\"" ++ s ++ "\""
  | .int i => toString i.toInt
  | .double d => d.placesText 6
  | .bool b => toString b
  | .json s => "json:" ++ s

def KeyValue.text (tag : KeyValue) : String :=
  tag.key ++ "=" ++ (tag.value.map TagValue.text).getD absent

def tagsText (most : Nat) (tags : List KeyValue) : String :=
  "\x7b" ++ ", ".intercalate ((tags.take most).map KeyValue.text)
    ++ (if most < tags.length then ", ... +" ++ toString (tags.length - most) else "") ++ "\x7d"

/-- how many tags a summary shows -/
def shownTags : Nat := 3

/-- nothing is said of tags where there are none -/
def tagsPart (label : String) (tags : List KeyValue) : String :=
  if tags.isEmpty then "" else ", " ++ label ++ "=" ++ tagsText shownTags tags

def Report.summary (r : Report) : String :=
  "reporter_id=" ++ (r.reporter.map fun p => toString p.reporterId.toNat).getD absent
    ++ ", access_token=" ++ quoted ((r.auth.map Auth.accessToken).getD absent)
    ++ ", internal_metrics=" ++ (if r.internalMetrics.isSome then "yes" else "no")
    ++ ", spans=[" ++ ", ".intercalate (r.spans.map fun s => quoted s.operationName) ++ "]"
    ++ tagsPart "reporter_tags" ((r.reporter.map Reporter.tags).getD [])

def Span.nameText (s : Span) : String := "operation_name=\"" ++ s.operationName ++ "\""

def Span.summary (s : Span) : String := s.nameText ++ tagsPart "tags" s.tags

end MockCollector
