import Mathlib.Data.List.Basic

namespace CcUtils.Python.Exceptions

/-- The exception classes the modelled code raises, catches or compares against:
Python's built-in hierarchy, `requests.exceptions.HTTPError`, and any other class a
stage may raise (`other`, a direct subclass of `Exception`). -/
inductive ExcClass
  | baseException | keyboardInterrupt | systemExit | exception
  | arithmeticError | zeroDivisionError | overflowError
  | attributeError | bufferError | eofError
  | importError | moduleNotFoundError
  | lookupError | keyError | indexError
  | memoryError | nameError | unboundLocalError
  | osError | fileNotFoundError | permissionError | connectionError | httpError
  | referenceError | runtimeError | recursionError | notImplementedError
  | syntaxError | indentationError | typeError | valueError
  | unicodeError | unicodeDecodeError
  | other (name : String)
  deriving DecidableEq, Repr

def ExcClass.mro : ExcClass → List ExcClass
  | .baseException => [.baseException]
  | .keyboardInterrupt => [.keyboardInterrupt, .baseException]
  | .systemExit => [.systemExit, .baseException]
  | .exception => [.exception, .baseException]
  | .zeroDivisionError => [.zeroDivisionError, .arithmeticError, .exception, .baseException]
  | .overflowError => [.overflowError, .arithmeticError, .exception, .baseException]
  | .moduleNotFoundError => [.moduleNotFoundError, .importError, .exception, .baseException]
  | .keyError => [.keyError, .lookupError, .exception, .baseException]
  | .indexError => [.indexError, .lookupError, .exception, .baseException]
  | .unboundLocalError => [.unboundLocalError, .nameError, .exception, .baseException]
  | .fileNotFoundError => [.fileNotFoundError, .osError, .exception, .baseException]
  | .permissionError => [.permissionError, .osError, .exception, .baseException]
  | .connectionError => [.connectionError, .osError, .exception, .baseException]
  | .httpError => [.httpError, .osError, .exception, .baseException]
  | .recursionError => [.recursionError, .runtimeError, .exception, .baseException]
  | .notImplementedError => [.notImplementedError, .runtimeError, .exception, .baseException]
  | .indentationError => [.indentationError, .syntaxError, .exception, .baseException]
  | .unicodeError => [.unicodeError, .valueError, .exception, .baseException]
  | .unicodeDecodeError =>
    [.unicodeDecodeError, .unicodeError, .valueError, .exception, .baseException]
  | c => [c, .exception, .baseException]

structure PyExc where
  cls : ExcClass
  msg : String
  deriving DecidableEq, Repr

def PyExc.isInstance (e : PyExc) (c : ExcClass) : Bool := e.cls.mro.contains c

def PyExc.isException (e : PyExc) : Bool := e.isInstance .exception

/-- The `AttributeError` of looking up `attr` on an instance of `cls`, whose class defines no
such attribute. -/
def noAttribute (cls attr : String) : PyExc :=
  ⟨.attributeError, "\x27" ++ cls ++ "\x27 object has no attribute \x27" ++ attr ++ "\x27"⟩

end CcUtils.Python.Exceptions
