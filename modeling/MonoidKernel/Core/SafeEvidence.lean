import Mathlib.Logic.Function.Basic
import Mathlib.Algebra.Ring.Nat

set_option autoImplicit false

namespace MonoidKernel

def isOpaqueRest (character : Char) : Bool :=
  character.isAlphanum || ['.', '_', ':', '+', '/', '-'].contains character

def isSafeOpaqueId (value : String) : Bool :=
  match value.toList with
  | [] => false
  | first :: rest => first.isAlphanum && rest.all isOpaqueRest && decide (rest.length ≤ 255)

structure OpaqueId where
  text : String
  safe : isSafeOpaqueId text = true
deriving DecidableEq

def isSchemeCharacter (character : Char) : Bool :=
  character.isLower || character.isDigit || ['.', '_', '-'].contains character

def isSafeOpaqueAddress (value : String) : Bool :=
  let characters := value.toList
  let scheme := characters.takeWhile (· != ':')
  let locator := (characters.dropWhile (· != ':')).drop 1
  decide (characters.length ≤ 256) &&
    (match scheme with
      | [] => false
      | first :: rest =>
        first.isLower && rest.all isSchemeCharacter && decide (rest.length ≤ 31)) &&
    (match locator with
      | [] => false
      | first :: rest => first.isAlphanum && rest.all isOpaqueRest)

def isSafeTaxonomyCode (value : String) : Bool :=
  match value.toList with
  | [] => false
  | first :: rest =>
      first.isAlphanum &&
        rest.all (fun character => character.isAlphanum || ['.', '_', '-'].contains character) &&
        decide (rest.length ≤ 127)

-- PostgreSQL bigint columns refuse anything above this.
def postgresBigintMax : Nat := 2 ^ 63 - 1

end MonoidKernel
