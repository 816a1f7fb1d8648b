import CanBus.Errno

namespace CanBus.Path

def components : List Char → List (List Char)
  | [] => [[]]
  | c :: rest =>
    match components rest with
    | [] => [[c]]
    | part :: parts => if c = '/' then [] :: part :: parts else (c :: part) :: parts

/-- The last part of a path that names something; empty parts and single dots do not. -/
def lastComponent? (path : List Char) : Option (List Char) :=
  match (components path).reverse.find? fun part => part != [] && part != ['.'] with
  | some ['.', '.'] => none
  | part => part

/-- The text after the last dot. A dot at the beginning starts no extension. -/
def extension? (part : List Char) : Option (List Char) :=
  let after := (part.reverse.takeWhile (· != '.')).reverse
  let before := part.length - after.length
  if 1 < before then some after else none

def longest : Nat := 4095

def longestPart : Nat := 255

inductive Obstacle
  | zero
  | tooLong
  | missing
  | directory
deriving DecidableEq

def Obstacle.text : Obstacle → String
  | zero => "file name contained an unexpected NUL byte"
  | tooLong => Errno.text Errno.nameTooLong
  | missing => Errno.text Errno.notFound
  | directory => Errno.text Errno.isDirectory

def malformed? (path : String) : Option Obstacle :=
  if path.toList.contains '\x00' then some .zero
  else if longest < path.utf8ByteSize then some .tooLong
  else none

def overlong (part : List Char) : Bool := longestPart < (String.ofList part).utf8ByteSize

def isStep (part : List Char) : Bool := part == [] || part == ['.'] || part == ['.', '.']

/-- What ends the way along a path from an empty directory. Its first name is all that is looked at,
as nothing has that name. -/
def obstacle (path : String) : Obstacle :=
  match malformed? path with
  | some obstacle => obstacle
  | none =>
    if path = "" then .missing
    else
      match (components path.toList).find? fun part => !isStep part with
      | some name => if overlong name then .tooLong else .missing
      | none => .directory

def forbidden? (path : String) : Option Obstacle :=
  match malformed? path with
  | some obstacle => some obstacle
  | none => if (components path.toList).any overlong then some .tooLong else none

end CanBus.Path
