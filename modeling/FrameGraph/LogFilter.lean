import FrameGraph.Data.Text
import FrameGraph.Error
import FrameGraph.Text.Alphanumeric
import FrameGraph.Text.Blank

/-!
# Log filters

A filter is a list of parts between commas, each a level, a target, or a target with its level after
an equals sign. A level is a name in any case or a number from 0 to 5; no level means all of them.

* `LogFilter.parse`: the parts, or the first reason against one.
-/

namespace FrameGraph
set_option autoImplicit false

inductive LogLevel where
  | off
  | error
  | warn
  | info
  | debug
  | trace
deriving DecidableEq, Repr

namespace LogLevel

def all : List LogLevel := [off, error, warn, info, debug, trace]

def name : LogLevel → String
  | off => "off"
  | error => "error"
  | warn => "warn"
  | info => "info"
  | debug => "debug"
  | trace => "trace"

/-- The digits of a number, with or without a plus sign. -/
def unsigned : List Char → List Char
  | '+' :: digits => digits
  | digits => digits

def ofText? (text : String) : Option LogLevel :=
  let digits := unsigned text.toList
  if !digits.isEmpty && digits.all Data.isDigit then all[Data.decimalValue digits]?
  else all.find? fun level => level.name == text.map Char.toLower

end LogLevel

structure LogRule where
  target : Option String
  level : LogLevel
deriving DecidableEq, Repr

inductive LogFilterError where
  | directive
  | level
deriving DecidableEq, Repr

def LogFilterError.message : LogFilterError → String
  | directive => "invalid filter directive"
  | level => "error parsing level filter: expected one of \"off\", \"error\", \"warn\", " ++
      "\"info\", \"debug\", \"trace\", or a number 0-5"

namespace LogFilter

/-- A part starts with a letter, a digit or a mark that paths of targets hold. -/
def opensPart (c : Char) : Bool :=
  Text.isAlphanumeric c || c == '-' || c == ':' || c == '_'

/-- Where a part starts and where its equals sign stands is told without the blanks around it; the target
and the level are then cut out of the part as it is. -/
def parsePart (part : List Char) : Except LogFilterError LogRule :=
  let bare := Text.trimmed part
  if !(bare.head?.any opensPart) then .error .directive
  else match bare.idxOf? '=' with
    | none => match LogLevel.ofText? (String.ofList part) with
      | some level => .ok ⟨none, level⟩
      | none => .ok ⟨some (String.ofList part), .trace⟩
    | some position =>
      let target := String.ofList (part.take position)
      match part.drop (position + 1) with
      | [] => .ok ⟨some target, .trace⟩
      | level => match LogLevel.ofText? (String.ofList level) with
        | some level => .ok ⟨some target, level⟩
        | none => .error .level

def splitParts : List Char → List (List Char)
  | [] => [[]]
  | ',' :: rest => [] :: splitParts rest
  | c :: rest => match splitParts rest with
    | [] => [[c]]
    | part :: parts => (c :: part) :: parts

/-- Empty parts are left aside. -/
def parse (text : String) : Except LogFilterError (List LogRule) :=
  ((splitParts text.toList).filter fun part => !part.isEmpty).mapM parsePart

def build (text : String) : Except Error (List LogRule) :=
  match parse text with
  | .ok rules => .ok rules
  | .error e => .error (.config ("Invalid log filter '" ++ text ++ "': " ++ e.message))

end LogFilter

def logFilePrefix : String := "camflow.log"

end FrameGraph
