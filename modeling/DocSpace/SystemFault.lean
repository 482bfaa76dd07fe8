import DocSpace.Value.Display

set_option autoImplicit false

namespace DocSpace.SystemFault

def commonClass : String := "OSError"

def classes : List (Int × String) := [
  (1, "PermissionError"), (2, "FileNotFoundError"), (3, "ProcessLookupError"),
  (4, "InterruptedError"), (10, "ChildProcessError"), (11, "BlockingIOError"),
  (13, "PermissionError"), (17, "FileExistsError"), (20, "NotADirectoryError"),
  (21, "IsADirectoryError"), (32, "BrokenPipeError"), (103, "ConnectionAbortedError"),
  (104, "ConnectionResetError"), (108, "BrokenPipeError"), (110, "TimeoutError"),
  (111, "ConnectionRefusedError"), (114, "BlockingIOError"), (115, "BlockingIOError")]

def whole? : Value → Option Int
  | .int i | .intMember _ _ i => some i
  | .bool b => some (if b then 1 else 0)
  | _ => none

/-- A number counts only beside a reason, and with at most three arguments more. -/
def label : List Value → String
  | number :: _ :: more =>
    if more.length ≤ 3 then ((whole? number).bind fun i => classes.lookup i).getD commonClass
    else commonClass
  | _ => commonClass

/-- The files are the first and the third argument after the reason, the second only if there
is a first. -/
def files : List Value → List Value
  | [] => []
  | file :: more =>
    if file.isNull then []
    else file :: (more.drop 1).filter fun second => !second.isNull

/-- Where a call would have blocked, a number in the place of a file says how much was done. -/
def amount? (arguments : List Value) : Option Value :=
  match arguments with
  | _ :: _ :: amount :: _ =>
    if label arguments = "BlockingIOError" ∧ isNumber amount then some amount else none
  | _ => none
where
  isNumber : Value → Bool
    | .double _ => true
    | v => (whole? v).isSome

/-- Amounts are held in words of 64 bits, one of them for the sign. -/
def amountLimit : Int := 0x8000000000000000

def fits (amount : Int) : Bool := -amountLimit ≤ amount && amount < amountLimit

/-- Message of a fault with a number and a reason; other faults have the common one. -/
def text? (arguments : List Value) : Option String :=
  match arguments with
  | number :: reason :: more =>
    let head := "[Errno " ++ number.plain ++ "] " ++ reason.plain
    if 3 < more.length then none
    else if (amount? arguments).isSome then some head
    else
      match files more with
      | [] => some head
      | fs => some (head ++ ": " ++ Text.joined " -> " (fs.map Value.display))
  | _ => none

end DocSpace.SystemFault
