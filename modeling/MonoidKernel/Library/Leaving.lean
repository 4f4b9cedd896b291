import Mathlib.Logic.Basic

set_option autoImplicit false

namespace Library

def Piece (S E A : Type) : Type := S → Except E A × S

namespace Piece

variable {S E A B : Type}

def leave (reason : E) : Piece S E A := fun s => (.error reason, s)

def state : Piece S E S := fun s => (.ok s, s)

def andThen (piece : Piece S E A) (rest : A → Piece S E B) : Piece S E B := fun s =>
  match piece s with
  | (.ok value, t) => rest value t
  | (.error reason, t) => (.error reason, t)

instance : Monad (Piece S E) where
  pure value := fun s => (.ok value, s)
  bind := andThen

def update (change : S → S) : Piece S E Unit := fun s => (.ok (), change s)

-- The handler starts from the state in which the piece left.
def handle (piece : Piece S E A) (handler : E → Piece S E A) : Piece S E A := fun s =>
  match piece s with
  | (.ok value, t) => (.ok value, t)
  | (.error reason, t) => handler reason t

def leaveIf (reason : Option E) : Piece S E Unit :=
  match reason with
  | none => pure ()
  | some reason => leave reason

-- The triple: from `s`, the piece ends in `stays` or leaves in `leaves`.
def Ends (piece : Piece S E A) (s : S) (stays : A → S → Prop) (leaves : E → S → Prop) : Prop :=
  match piece s with
  | (.ok value, t) => stays value t
  | (.error reason, t) => leaves reason t

variable {piece : Piece S E A} {s : S} {stays : A → S → Prop} {leaves : E → S → Prop}

theorem Ends.pure {value : A} (holds : stays value s) :
    (Pure.pure value : Piece S E A).Ends s stays leaves := holds

variable {further : B → S → Prop}

theorem Ends.bind {rest : A → Piece S E B}
    (ends : piece.Ends s (fun value t => (rest value).Ends t further leaves) leaves) :
    (piece >>= rest).Ends s further leaves := by
  change (piece.andThen rest).Ends s further leaves
  unfold Ends andThen at *
  cases outcome : piece s with
  | mk result t =>
    cases result with
    | ok value => simpa only [outcome] using ends
    | error reason => simpa only [outcome] using ends

theorem Ends.handle {handler : E → Piece S E A}
    (ends : piece.Ends s stays (fun reason t => (handler reason).Ends t stays leaves)) :
    (piece.handle handler).Ends s stays leaves := by
  unfold Ends Piece.handle at *
  cases outcome : piece s with
  | mk result t =>
    cases result with
    | ok value => simpa only [outcome] using ends
    | error reason => simpa only [outcome] using ends

theorem Ends.weaken {further : A → S → Prop} {worse : E → S → Prop}
    (ends : piece.Ends s stays leaves) (values : ∀ value t, stays value t → further value t)
    (reasons : ∀ reason t, leaves reason t → worse reason t) : piece.Ends s further worse := by
  unfold Ends at *
  split at ends
  next value t outcome => simpa only [outcome] using values value t ends
  next reason t outcome => simpa only [outcome] using reasons reason t ends

theorem Ends.read {rest : S → Piece S E B} (ends : (rest s).Ends s further leaves) :
    ((Piece.state : Piece S E S) >>= rest).Ends s further leaves := Ends.bind ends

theorem Ends.change {change : S → S} {rest : Unit → Piece S E B}
    (ends : (rest ()).Ends (change s) further leaves) :
    ((Piece.update change : Piece S E Unit) >>= rest).Ends s further leaves := Ends.bind ends

theorem Ends.then {rest : A → Piece S E B} {worse : E → S → Prop} (ends : piece.Ends s stays worse)
    (carries : ∀ value t, stays value t → (rest value).Ends t further worse) :
    (piece >>= rest).Ends s further worse :=
  Ends.bind (ends.weaken carries fun _ _ left => left)

theorem Ends.leaveIf {reason : Option E} {stays : Unit → S → Prop} (holds : stays () s)
    (left : ∀ why, reason = some why → leaves why s) :
    (Piece.leaveIf reason : Piece S E Unit).Ends s stays leaves := by
  cases reason with
  | none => exact holds
  | some why => exact left why rfl

theorem Ends.run : piece.Ends s (fun value t => piece s = (.ok value, t))
    (fun reason t => piece s = (.error reason, t)) := by
  unfold Ends
  split <;> assumption

theorem Ends.and {also : A → S → Prop} {besides : E → S → Prop}
    (first : piece.Ends s stays leaves) (second : piece.Ends s also besides) :
    piece.Ends s (fun value t => stays value t ∧ also value t)
      (fun reason t => leaves reason t ∧ besides reason t) := by
  unfold Ends at *
  split at first
  next value t outcome => simpa only [outcome] using ⟨first, by simpa only [outcome] using second⟩
  next reason t outcome => simpa only [outcome] using ⟨first, by simpa only [outcome] using second⟩

section Invariants

variable {P : S → Prop}

def Keeps (P : S → Prop) (piece : Piece S E A) : Prop :=
  ∀ s, P s → piece.Ends s (fun _ t => P t) (fun _ t => P t)

theorem Keeps.pure {value : A} : (Pure.pure value : Piece S E A).Keeps P := fun _ held => held

theorem Keeps.leave {reason : E} : (Piece.leave reason : Piece S E A).Keeps P :=
  fun _ held => held

theorem Keeps.leaveIf {reason : Option E} : (Piece.leaveIf reason : Piece S E Unit).Keeps P :=
  fun _ held => Ends.leaveIf held fun _ _ => held

theorem Keeps.state : (Piece.state : Piece S E S).Keeps P := fun _ held => held

theorem Keeps.update {change : S → S} (kept : ∀ s, P s → P (change s)) :
    (Piece.update change : Piece S E Unit).Keeps P := kept

theorem Keeps.bind {rest : A → Piece S E B} (first : piece.Keeps P)
    (second : ∀ value, (rest value).Keeps P) : (piece >>= rest).Keeps P :=
  fun s held => Ends.then (first s held) fun value t after => second value t after

theorem Keeps.ite {condition : Prop} [Decidable condition] {other : Piece S E A}
    (first : piece.Keeps P) (second : other.Keeps P) :
    (if condition then piece else other).Keeps P := by
  split
  · exact first
  · exact second

theorem Keeps.read {rest : S → Piece S E B} (kept : ∀ s, (rest s).Keeps P) :
    ((Piece.state : Piece S E S) >>= rest).Keeps P :=
  Keeps.bind Keeps.state kept

theorem Keeps.change {change : S → S} {rest : Unit → Piece S E B} (kept : ∀ s, P s → P (change s))
    (second : (rest ()).Keeps P) : ((Piece.update change : Piece S E Unit) >>= rest).Keeps P :=
  Keeps.bind (Keeps.update kept) fun _ => second

end Invariants

section Results

variable {post : A → S → Prop}

def Yields (post : A → S → Prop) (piece : Piece S E A) : Prop :=
  ∀ s, piece.Ends s post (fun _ _ => True)

theorem Yields.leave {reason : E} : (Piece.leave reason : Piece S E A).Yields post :=
  fun _ => trivial

theorem Yields.pure {value : A} (holds : ∀ s, post value s) :
    (Pure.pure value : Piece S E A).Yields post := holds

theorem Yields.bind {further : B → S → Prop} {rest : A → Piece S E B}
    (second : ∀ value, (rest value).Yields further) : (piece >>= rest).Yields further := by
  intro s
  have anything : piece.Ends s (fun _ _ => True) (fun _ _ => True) := by
    unfold Ends
    split <;> trivial
  exact Ends.then anything fun value t _ => second value t

theorem Yields.ite {condition : Prop} [Decidable condition] {other : Piece S E A}
    (first : piece.Yields post) (second : other.Yields post) :
    (if condition then piece else other).Yields post := by
  split
  · exact first
  · exact second

end Results

end Piece

end Library
