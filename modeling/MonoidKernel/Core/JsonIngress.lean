import Mathlib.Data.Finset.Basic
import MonoidKernel.Core.ModelContent
import MonoidKernel.Library.OrderedDict
import MonoidKernel.Library.WorkLoop
import Mathlib.Algebra.Ring.Int.Defs

set_option autoImplicit false

-- Translated from core/json_ingress.py.
namespace MonoidKernel.JsonIngress

open Library (WorkLoop.run)
open MonoidKernel.ModelContent (PyText normalizeUnicodeScalars pyText)

section Scalars

inductive Scalar where
  | none
  | bool (value : Bool)
  | int (value : Int)
  | float (word : UInt64)
  | str (text : PyText)
  | other (typeName : String)
deriving DecidableEq

inductive IngressError where
  | keyNotString
  | keysCollide
  | unportableInteger (digits : Nat)
  | unportableType (typeName : String)
  | containerTooDeep
  | containerCycle
  | missingHeight
deriving DecidableEq

def maxPortableContainerDepth : Nat := 64

def IngressError.message : IngressError → String
  | .keyNotString => "JSON object keys must be strings"
  | .keysCollide => "JSON object keys collide after ingress normalization"
  | .unportableInteger digits =>
    "integer exceeds the JSON bound of " ++ toString digits ++ " digits"
  | .unportableType typeName => "value of type " ++ typeName ++ " is not portable JSON"
  | .containerTooDeep => "container nests deeper than " ++ toString maxPortableContainerDepth ++
      " levels; flatten the payload or pass it as a workspace file"
  | .containerCycle => "container is reachable from itself and cannot be written as portable JSON"
  | .missingHeight => "KeyError"

def IngressError.isUnportableContainer : IngressError → Bool
  | .containerTooDeep | .containerCycle => true
  | _ => false

structure Flags where
  substituteNonfinite : Bool := true
  normalizeStrings : Bool := true
  refuseUnportable : Bool := false

def isFinite (word : UInt64) : Bool := (word >>> 52) &&& 0x7FF ≠ 0x7FF

def normalizeText (text : PyText) : PyText := pyText (normalizeUnicodeScalars text)

def unconditionallySpellableInt : Int := 10 ^ 17

-- `_refuse_unportable_scalar`, with the digits that an integer may have in this process.
def refuseUnportableScalar (digits : Nat) : Scalar → Except IngressError Unit
  | .int value =>
    if -unconditionallySpellableInt < value ∧ value < unconditionallySpellableInt then .ok ()
    else if -(10 ^ digits) < value ∧ value < 10 ^ digits then .ok ()
    else .error (.unportableInteger digits)
  | .other typeName => .error (.unportableType typeName)
  | _ => .ok ()

def normalizeScalar (flags : Flags) (digits : Nat) (value : Scalar) :
    Except IngressError Scalar := do
  if flags.refuseUnportable then refuseUnportableScalar digits value
  match value with
  | .str text => .ok (.str (if flags.normalizeStrings then normalizeText text else text))
  | .float word =>
    .ok (if flags.substituteNonfinite && !isFinite word then .none else .float word)
  | other => .ok other

end Scalars

section Graphs

variable (Ref : Type)

inductive Value where
  | scalar (value : Scalar)
  | ref (container : Ref)
deriving DecidableEq

inductive Key where
  | str (text : PyText)
  | other
deriving DecidableEq

inductive Container where
  | dict (entries : List (Key × Value Ref))
  | list (items : List (Value Ref))
  | tuple (items : List (Value Ref))

structure Graph where
  heap : Ref → Container Ref
  root : Value Ref

end Graphs

section Copying

variable {Ref : Type} [DecidableEq Ref]

inductive Slot where
  | key (text : PyText)
  | index (place : Nat)

structure Pending (Ref : Type) where
  source : Value Ref
  destination : Option Ref
  slot : Slot

structure Copying (Ref : Type) where
  root : Value Ref
  memo : Finset Ref
  copies : Ref → Container Ref
  pending : List (Pending Ref)

def Container.assign (value : Value Ref) : Container Ref → Slot → Container Ref
  | .dict entries, .key text => .dict (Library.OrderedDict.put (.str text) value entries)
  | .list items, .index place => .list (items.set place value)
  | container, _ => container

def Copying.assign (copying : Copying Ref) (destination : Option Ref) (slot : Slot)
    (value : Value Ref) : Copying Ref :=
  match destination with
  | none => { copying with root := value }
  | some container =>
    { copying with
      copies := Function.update copying.copies container
        ((copying.copies container).assign value slot) }

def prepare (seen : List PyText) :
    List (Key × Value Ref) → Except IngressError (List (PyText × Value Ref))
  | [] => .ok []
  | (.other, _) :: _ => .error .keyNotString
  | (.str key, child) :: rest =>
    let normalizedKey := normalizeText key
    if normalizedKey ∈ seen then .error .keysCollide
    else
      match prepare (normalizedKey :: seen) rest with
      | .error error => .error error
      | .ok prepared => .ok ((normalizedKey, child) :: prepared)

def entrySlots (container : Ref) (prepared : List (PyText × Value Ref)) : List (Pending Ref) :=
  prepared.map fun (key, child) => ⟨child, some container, .key key⟩

def itemSlots (container : Ref) : Nat → List (Value Ref) → List (Pending Ref)
  | _, [] => []
  | place, item :: rest =>
    ⟨item, some container, .index place⟩ :: itemSlots container (place + 1) rest

def Copying.enter (copying : Copying Ref) (container : Ref) (destination : Option Ref) (slot : Slot)
    (copy : Container Ref) (slots : List (Pending Ref)) : Copying Ref :=
  let entered : Copying Ref :=
    { copying with
      memo := insert container copying.memo
      copies := Function.update copying.copies container copy
      pending := slots ++ copying.pending }
  entered.assign destination slot (.ref container)

def copyStep (flags : Flags) (digits : Nat) (heap : Ref → Container Ref) (copying : Copying Ref) :
    Except IngressError (Graph Ref) ⊕ Copying Ref :=
  match copying.pending with
  | [] => .inl (.ok ⟨copying.copies, copying.root⟩)
  | ⟨source, destination, slot⟩ :: rest =>
    let copying := { copying with pending := rest }
    match source with
    | .scalar value =>
      match normalizeScalar flags digits value with
      | .error error => .inl (.error error)
      | .ok value => .inr (copying.assign destination slot (.scalar value))
    | .ref container =>
      if container ∈ copying.memo then .inr (copying.assign destination slot (.ref container))
      else
        match heap container with
        | .dict entries =>
          match prepare [] entries with
          | .error error => .inl (.error error)
          | .ok prepared =>
            .inr (copying.enter container destination slot (.dict [])
              (entrySlots container prepared))
        | .list items | .tuple items =>
          .inr (copying.enter container destination slot
            (.list (List.replicate items.length (.scalar .none))) (itemSlots container 0 items))

def startCopying (value : Value Ref) : Copying Ref where
  root := .scalar .none
  memo := ∅
  copies := fun _ => .list []
  pending := [⟨value, none, .index 0⟩]

end Copying

section Shapes

variable {Ref : Type} [DecidableEq Ref]

def Container.children : Container Ref → List (Value Ref)
  | .dict entries => entries.map Prod.snd
  | .list items => items
  | .tuple items => items

def Value.ref? : Value Ref → Option Ref
  | .scalar _ => none
  | .ref container => some container

structure Shape (Ref : Type) where
  settled : Ref → Option Nat
  onPath : Finset Ref
  stack : List (Value Ref × Bool)

def tallestChild (settled : Ref → Option Nat) (children : List Ref) : Option Nat :=
  (children.mapM settled).map fun heights => heights.foldl max 0

-- One turn of the loop of `_refuse_unportable_shape`. The top of the stack comes first.
def shapeStep (heap : Ref → Container Ref) (shape : Shape Ref) :
    Except IngressError Unit ⊕ Shape Ref :=
  match shape.stack with
  | [] => .inl (.ok ())
  | (.scalar _, _) :: rest => .inr { shape with stack := rest }
  | (.ref node, true) :: rest =>
    match tallestChild shape.settled ((heap node).children.filterMap Value.ref?) with
    | none => .inl (.error .missingHeight)
    | some tallest =>
      if tallest + 1 > maxPortableContainerDepth then .inl (.error .containerTooDeep)
      else
        .inr
          { settled := Function.update shape.settled node (some (tallest + 1))
            onPath := shape.onPath.erase node
            stack := rest }
  | (.ref node, false) :: rest =>
    if node ∈ shape.onPath then .inl (.error .containerCycle)
    else if (shape.settled node).isSome then .inr { shape with stack := rest }
    else
      .inr
        { shape with
          onPath := insert node shape.onPath
          stack := (heap node).children.reverse.map (fun child => (child, false)) ++
            (.ref node, true) :: rest }

def startShape (root : Value Ref) : Shape Ref := ⟨fun _ => none, ∅, [(root, false)]⟩

-- `_refuse_unportable_shape`; nothing where the fuel runs out.
def refuseUnportableShape (fuel : Nat) (graph : Graph Ref) : Option (Except IngressError Unit) :=
  WorkLoop.run (shapeStep graph.heap) fuel (startShape graph.root)

def normalizeJsonIngress (fuel : Nat) (flags : Flags) (digits : Nat) (graph : Graph Ref) :
    Option (Except IngressError (Graph Ref)) :=
  match WorkLoop.run (copyStep flags digits graph.heap) fuel (startCopying graph.root) with
  | some (.ok copy) =>
    if flags.refuseUnportable then
      match refuseUnportableShape fuel copy with
      | some (.ok _) => some (.ok copy)
      | some (.error error) => some (.error error)
      | none => none
    else some (.ok copy)
  | other => other

end Shapes

end MonoidKernel.JsonIngress
