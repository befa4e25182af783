/-
# Why a command failed

A failed command is reported with its error and, where there are any, with what lies behind it:
a single cause is indented, several are numbered from the nearest on.
-/
import UrlTransfer.Error

namespace UrlTransfer

namespace Cli

/-- Why a command failed. -/
inductive Failure where
  | library (error : Error)
  /-- Copying data failed. -/
  | io (fault : IoError)
  | invalidMethod
  /-- A header without a colon. -/
  | invalidHeader (text : String)

namespace Failure

/-- The wording of a failure. -/
def message : Failure → String
  | library error => error.message
  | io fault => fault.message
  | invalidMethod => "invalid HTTP method"
  | invalidHeader text => "invalid header '" ++ text ++ "'"

/-- What lies behind a failure, the nearest first. -/
def causes : Failure → List String
  | library error => error.causes
  | io fault => fault.causes
  | invalidMethod | invalidHeader _ => []

/-- A text behind a mark, with its other lines indented as far as the mark reaches. -/
def behind (mark text : String) : String :=
  let indent := String.ofList (List.replicate mark.length ' ')
  mark ++ ("\n" ++ indent).intercalate (Text.pieces '\n' text)

/-- The mark of cause number `i`. -/
def causeMark (i : Nat) : String :=
  let number := Numeral.decimal i
  String.ofList (List.replicate (5 - number.length) ' ') ++ number ++ ": "

/-- The lines that list causes. -/
def causeLines : List String → List String
  | [] => []
  | [cause] => ["", "Caused by:", behind "    " cause]
  | causes => "" :: "Caused by:" :: causes.zipIdx.map fun (cause, i) => behind (causeMark i) cause

/-- The report of a failure, without the line feed at its end. -/
def report (f : Failure) : String :=
  "\n".intercalate (("Error: " ++ f.message) :: causeLines f.causes)

end Failure

end Cli

end UrlTransfer
