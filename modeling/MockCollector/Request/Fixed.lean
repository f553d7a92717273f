import MockCollector.Request.Transfer
import MockCollector.Request.Violation
/-!
# Reports that come whole

* `gather limit body`           the bytes of a body, as long as they stay within a limit;
* `fixedReport headers body`    the report in a body of exactly the declared length.
-/

namespace MockCollector

/-- pieces are taken one at a time, so nothing behind the first that is too much is looked at -/
def gather : Nat → Body → Except Violation (List UInt8)
  | _, [] => .ok []
  | _, .failure e :: _ => .error (.body e)
  | limit, .bytes bs :: rest =>
    if limit < bs.length then .error .tooLong
    else (gather (limit - bs.length) rest).map (bs ++ ·)

def fixedReport (headers : List Header) (body : Body) : Except Violation Report :=
  match declaredLength? headers with
  | none => .error .noLength
  | some declared =>
    match gather declared body with
    | .error v => .error v
    | .ok bs =>
      if bs.length ≠ declared then .error (.wrongLength declared bs.length)
      else
        match Report.layout.decode bs with
        | .error e => .error (.report e)
        | .ok r => .ok r

end MockCollector
