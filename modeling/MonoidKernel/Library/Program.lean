import Mathlib.Logic.Function.Basic
import MonoidKernel.Library.Machine

set_option autoImplicit false

namespace Library

variable {Request : Type} {Reply : Request → Type}

inductive Program (Request : Type) (Reply : Request → Type) (A : Type) where
  | done (value : A)
  | call (request : Request) (resume : Reply request → Program Request Reply A)

namespace Program

variable {A B : Type}

def bind : Program Request Reply A → (A → Program Request Reply B) → Program Request Reply B
  | .done value, rest => rest value
  | .call request resume, rest => .call request fun reply => bind (resume reply) rest

def Within : Program Request Reply A → Nat → Prop
  | .done _, _ => True
  | .call _ _, 0 => False
  | .call _ resume, bound + 1 => ∀ reply, (resume reply).Within bound

theorem Within.mono {program : Program Request Reply A} {bound more : Nat}
    (within : program.Within bound) (least : bound ≤ more) : program.Within more := by
  induction program generalizing bound more with
  | done value => trivial
  | call request resume ih =>
    cases bound with
    | zero => exact within.elim
    | succ bound =>
      cases more with
      | zero => cases least
      | succ more => exact fun reply => ih reply (within reply) (Nat.le_of_succ_le_succ least)

theorem Within.bind {program : Program Request Reply A} {rest : A → Program Request Reply B}
    {bound further : Nat} (within : program.Within bound)
    (after : ∀ value, (rest value).Within further) :
    (program.bind rest).Within (bound + further) := by
  induction program generalizing bound with
  | done value => exact (after value).mono (Nat.le_add_left _ _)
  | call request resume ih =>
    cases bound with
    | zero => exact within.elim
    | succ bound =>
      rw [Nat.succ_add]
      exact fun reply => ih reply (within reply)

-- One program alone, with the environment's choices given in advance for each request.
def alone {S Choice : Type} (serve : S → (request : Request) → Choice → S × Reply request)
    (choose : Request → Choice) : Program Request Reply A → S → S × A
  | .done value, s => (s, value)
  | .call request resume, s =>
      let served := serve s request (choose request)
      alone serve choose (resume served.2) served.1

end Program

def Action (Request : Type) (Reply : Request → Type) (E A : Type) : Type :=
  Program Request Reply (Except E A)

namespace Action

variable {E A B : Type}

def ask (request : Request) : Action Request Reply E (Reply request) :=
  Program.call request fun reply => .done (.ok reply)

def raise (error : E) : Action Request Reply E A := Program.done (.error error)

def andThen (action : Action Request Reply E A) (rest : A → Action Request Reply E B) :
    Action Request Reply E B :=
  Program.bind action fun
    | .ok value => rest value
    | .error error => .done (.error error)

def handle (action : Action Request Reply E A) (handler : E → Action Request Reply E A) :
    Action Request Reply E A :=
  Program.bind action fun
    | .ok value => .done (.ok value)
    | .error error => handler error

-- The check runs whether the action returned or raised, and what it raises wins.
def ensure (action : Action Request Reply E A) (check : Action Request Reply E Unit) :
    Action Request Reply E A :=
  Program.bind action fun result =>
    Program.bind check fun
      | .ok _ => .done result
      | .error error => .done (.error error)

instance : Monad (Action Request Reply E) where
  pure value := Program.done (.ok value)
  bind := andThen

def Within (action : Action Request Reply E A) (bound : Nat) : Prop :=
  Program.Within action bound

theorem Within.ask {request : Request} {rest : Reply request → Action Request Reply E B}
    {bound : Nat} (after : ∀ reply, (rest reply).Within bound) :
    Within (Action.ask request >>= rest) (bound + 1) :=
  after

theorem Within.andThen {action : Action Request Reply E A} {rest : A → Action Request Reply E B}
    {bound further : Nat} (within : action.Within bound)
    (after : ∀ value, (rest value).Within further) :
    Within (action >>= rest) (bound + further) := by
  refine Program.Within.bind within fun result => ?_
  cases result with
  | ok value => exact after value
  | error error => trivial

end Action

structure Discipline (S Id Request : Type) (Reply : Request → Type) (Choice : Type) where
  serve : Id → S → (request : Request) → Choice → S × Reply request
  inv : S → Prop
  rely : Id → S → S → Prop
  allowed : Id → S → Request → Prop
  rely_refl : ∀ id s, rely id s s
  rely_trans : ∀ id a b c, rely id a b → rely id b c → rely id a c
  serve_inv : ∀ id s request choice, inv s → allowed id s request →
    inv (serve id s request choice).1
  guarantee : ∀ id other s request choice, inv s → allowed id s request → other ≠ id →
    rely other s (serve id s request choice).1

namespace Discipline

variable {S Id Choice A B E : Type} (d : Discipline S Id Request Reply Choice) (id : Id)

-- From `s` on, with the others interfering, the program only makes the given requests and ends in
-- the postcondition.
def Safe (allowed : S → Request → Prop) (post : S → A → Prop) : Program Request Reply A → S → Prop
  | .done value, s => post s value
  | .call request resume, s =>
      allowed s request ∧ ∀ choice t, d.rely id (d.serve id s request choice).1 t → d.inv t →
        Safe allowed post (resume (d.serve id s request choice).2) t

variable {d id} {allowed : S → Request → Prop} {s : S}

variable {program : Program Request Reply A}

theorem Safe.weaken {post further : S → A → Prop} {stricter : S → Request → Prop}
    (safe : d.Safe id stricter post program s)
    (within : ∀ t request, stricter t request → allowed t request)
    (implied : ∀ t value, post t value → further t value) :
    d.Safe id allowed further program s := by
  induction program generalizing s with
  | done value => exact implied s value safe
  | call request resume ih =>
    obtain ⟨permitted, rest⟩ := safe
    exact ⟨within s request permitted, fun choice t interfered inv =>
      ih _ (rest choice t interfered inv)⟩

theorem Safe.bind {post : S → B → Prop} {rest : A → Program Request Reply B}
    (safe : d.Safe id allowed (fun t value => d.Safe id allowed post (rest value) t) program s) :
    d.Safe id allowed post (program.bind rest) s := by
  induction program generalizing s with
  | done value => exact safe
  | call request resume ih =>
    obtain ⟨permitted, further⟩ := safe
    exact ⟨permitted, fun choice t interfered inv => ih _ (further choice t interfered inv)⟩

theorem Safe.alone {post : S → A → Prop} (safe : d.Safe id allowed post program s)
    (choose : Request → Choice) (inv : d.inv s)
    (keeps : ∀ t request choice, d.inv t → allowed t request →
      d.inv (d.serve id t request choice).1) :
    post (Program.alone (d.serve id) choose program s).1
      (Program.alone (d.serve id) choose program s).2 := by
  induction program generalizing s with
  | done value => exact safe
  | call request resume ih =>
    obtain ⟨permitted, rest⟩ := safe
    have after := keeps s request (choose request) inv permitted
    exact ih _ (rest (choose request) _ (d.rely_refl _ _) after) after

def Ends (ok : S → A → Prop) (failed : S → E → Prop) (s : S) : Except E A → Prop
  | .ok value => ok s value
  | .error error => failed s error

def Does (d : Discipline S Id Request Reply Choice) (id : Id) (allowed : S → Request → Prop)
    (s : S) (action : Action Request Reply E A) (ok : S → A → Prop)
    (failed : S → E → Prop) : Prop :=
  d.Safe id allowed (Ends ok failed) action s

variable {ok : S → A → Prop} {failed : S → E → Prop}

theorem Does.pure {value : A} (holds : ok s value) :
    d.Does id allowed s (Pure.pure value : Action Request Reply E A) ok failed := holds

theorem Does.raise {error : E} (holds : failed s error) :
    d.Does id allowed s (Action.raise error : Action Request Reply E A) ok failed := holds

theorem Does.ask {request : Request} {ok : S → Reply request → Prop} (permitted : allowed s request)
    (replied : ∀ choice t, d.rely id (d.serve id s request choice).1 t → d.inv t →
      ok t (d.serve id s request choice).2) :
    d.Does id allowed s (Action.ask request : Action Request Reply E _) ok failed :=
  ⟨permitted, replied⟩

variable {action : Action Request Reply E A}

theorem Does.andThen {rest : A → Action Request Reply E B} {next : S → B → Prop}
    (does : d.Does id allowed s action (fun t value => d.Does id allowed t (rest value) next failed)
      failed) :
    d.Does id allowed s (action >>= rest) next failed := by
  refine Safe.bind (Safe.weaken does (fun _ _ permitted => permitted) ?_)
  intro t result holds
  cases result with
  | ok value => exact holds
  | error error => exact holds

theorem Does.handle {handler : E → Action Request Reply E A} (does : d.Does id allowed s action ok
      (fun t error => d.Does id allowed t (handler error) ok failed)) :
    d.Does id allowed s (action.handle handler) ok failed := by
  refine Safe.bind (Safe.weaken does (fun _ _ permitted => permitted) ?_)
  intro t result holds
  cases result with
  | ok value => exact holds
  | error error => exact holds

theorem Does.ensure {check : Action Request Reply E Unit} (does : d.Does id allowed s action
      (fun t value => d.Does id allowed t check (fun u _ => ok u value) failed)
      (fun t error => d.Does id allowed t check (fun u _ => failed u error) failed)) :
    d.Does id allowed s (action.ensure check) ok failed := by
  refine Safe.bind (Safe.weaken does (fun _ _ permitted => permitted) ?_)
  intro t result holds
  refine Safe.bind ?_
  cases result with
  | ok value =>
    refine Safe.weaken holds (fun _ _ permitted => permitted) ?_
    intro u checked found
    cases checked <;> exact found
  | error error =>
    refine Safe.weaken holds (fun _ _ permitted => permitted) ?_
    intro u checked found
    cases checked <;> exact found

theorem Does.weaken {further : S → A → Prop} {worse : S → E → Prop}
    (does : d.Does id allowed s action ok failed) (values : ∀ t value, ok t value → further t value)
    (errors : ∀ t error, failed t error → worse t error) :
    d.Does id allowed s action further worse := by
  refine Safe.weaken does (fun _ _ permitted => permitted) ?_
  intro t result holds
  cases result with
  | ok value => exact values t value holds
  | error error => exact errors t error holds

end Discipline

structure Joint (S Id Request : Type) (Reply : Request → Type) (A : Type) where
  shared : S
  running : Id → Option (Program Request Reply A)

inductive JointLabel (Id Params Choice Env : Type) where
  | start (id : Id) (params : Params)
  | step (id : Id) (choice : Choice)
  | environment (event : Env)

def JointLabel.isStep {Id Params Choice Env : Type} [DecidableEq Id]
    (label : JointLabel Id Params Choice Env) (id : Id) : Bool :=
  match label with
  | .step mover _ => decide (mover = id)
  | _ => false

-- Programs started, restarted and stepped in any order. A restart forgets the program that ran
-- under the identity before.
structure Party (S Id Request : Type) (Reply : Request → Type) (Choice A Params Env : Type)
    [DecidableEq Id] where
  discipline : Discipline S Id Request Reply Choice
  init : S
  program : Id → Params → Program Request Reply A
  ready : S → Id → Bool
  environment : S → Env → S
  init_inv : discipline.inv init
  environment_inv : ∀ s event, discipline.inv s → discipline.inv (environment s event)
  environment_rely : ∀ id s event, discipline.inv s →
    discipline.rely id s (environment s event)

namespace Party

variable {S Id Choice A Params Env : Type} [DecidableEq Id]
variable (p : Party S Id Request Reply Choice A Params Env)

def next (s : Joint S Id Request Reply A) :
    JointLabel Id Params Choice Env → Joint S Id Request Reply A
  | .start id params =>
      if p.ready s.shared id then
        { s with running := Function.update s.running id (some (p.program id params)) }
      else s
  | .step id choice =>
      match s.running id with
      | some (.call request resume) =>
          let served := p.discipline.serve id s.shared request choice
          ⟨served.1, Function.update s.running id (some (resume served.2))⟩
      | _ => s
  | .environment event => { s with shared := p.environment s.shared event }

def machine : Machine (Joint S Id Request Reply A) (JointLabel Id Params Choice Env) Unit :=
  ⟨⟨p.init, fun _ => none⟩, fun s label => (p.next s label, ())⟩

def Lasting (id : Id) (allowed : S → Request → Prop) (post : S → A → Prop)
    (program : Program Request Reply A) (s : S) : Prop :=
  ∀ t, p.discipline.rely id s t → p.discipline.inv t →
    p.discipline.Safe id allowed post program t

variable {p} {post : S → A → Prop}

variable {program : Program Request Reply A}

theorem Lasting.keep {id : Id} {allowed : S → Request → Prop} {s t : S}
    (lasting : p.Lasting id allowed post program s) (interfered : p.discipline.rely id s t) :
    p.Lasting id allowed post program t :=
  fun u further => lasting u (p.discipline.rely_trans id s t u interfered further)

def Sound (p : Party S Id Request Reply Choice A Params Env) (post : S → A → Prop) : Prop :=
  ∀ id params s, p.discipline.inv s → p.ready s id = true →
    p.Lasting id (p.discipline.allowed id) post (p.program id params) s

def Orderly (p : Party S Id Request Reply Choice A Params Env) (post : S → A → Prop)
    (s : Joint S Id Request Reply A) : Prop :=
  p.discipline.inv s.shared ∧ ∀ id program, s.running id = some program →
    p.Lasting id (p.discipline.allowed id) post program s.shared

variable {s : Joint S Id Request Reply A}

theorem Orderly.allowed (orderly : p.Orderly post s) {id : Id} {request : Request}
    {resume : Reply request → Program Request Reply A}
    (running : s.running id = some (.call request resume)) :
    p.discipline.allowed id s.shared request :=
  (orderly.2 id _ running s.shared (p.discipline.rely_refl _ _) orderly.1).1

theorem Orderly.others (orderly : p.Orderly post s) (label : JointLabel Id Params Choice Env)
    (id : Id) (other : ∀ choice, label ≠ .step id choice) :
    p.discipline.rely id s.shared (p.next s label).shared := by
  cases label with
  | start starter params =>
    simp only [next]
    split <;> exact p.discipline.rely_refl _ _
  | environment event => exact p.environment_rely id _ event orderly.1
  | step mover choice =>
    have apart : id ≠ mover := by
      rintro rfl
      exact other choice rfl
    simp only [next]
    split
    next request resume running =>
      exact p.discipline.guarantee mover id _ request choice orderly.1
        (orderly.allowed running) apart
    · exact p.discipline.rely_refl _ _

theorem next_inv (orderly : p.Orderly post s) (label : JointLabel Id Params Choice Env) :
    p.discipline.inv (p.next s label).shared := by
  cases label with
  | start starter params =>
    simp only [next]
    split <;> exact orderly.1
  | environment event => exact p.environment_inv _ event orderly.1
  | step mover choice =>
    simp only [next]
    split
    next request resume running =>
      exact p.discipline.serve_inv mover _ request choice orderly.1 (orderly.allowed running)
    · exact orderly.1

theorem Lasting.next (orderly : p.Orderly post s) {id : Id} {allowed : S → Request → Prop}
    {further : S → A → Prop} (running : s.running id = some program)
    (lasting : p.Lasting id allowed further program s.shared)
    (label : JointLabel Id Params Choice Env) (kept : ∀ params, label ≠ .start id params) :
    ∃ later, (p.next s label).running id = some later ∧
      p.Lasting id allowed further later (p.next s label).shared := by
  by_cases own : ∃ choice, label = .step id choice
  · obtain ⟨choice, rfl⟩ := own
    cases program with
    | done value =>
      exact ⟨.done value, by simp [Party.next, running], by simpa [Party.next, running]⟩
    | call request resume =>
      refine ⟨resume (p.discipline.serve id s.shared request choice).2,
        by simp [Party.next, running], ?_⟩
      intro t interfered inv
      have safe := (lasting s.shared (p.discipline.rely_refl _ _) orderly.1).2 choice t
      simp only [Party.next, running] at interfered
      exact safe interfered inv
  · refine ⟨program, ?_, lasting.keep (orderly.others label id ?_)⟩
    · cases label with
      | environment event => exact running
      | start starter params =>
        have apart : id ≠ starter := by
          rintro rfl
          exact kept params rfl
        simp only [Party.next]
        split
        · simpa [apart] using running
        · exact running
      | step mover choice =>
        have apart : id ≠ mover := by
          rintro rfl
          exact own ⟨choice, rfl⟩
        simp only [Party.next]
        split
        · simpa [apart] using running
        · exact running
    · intro choice same
      exact own ⟨choice, same⟩

theorem Orderly.next (sound : p.Sound post) (orderly : p.Orderly post s)
    (label : JointLabel Id Params Choice Env) :
    p.Orderly post (p.next s label) := by
  refine ⟨next_inv orderly label, ?_⟩
  intro id program running
  by_cases restart : ∃ params, label = .start id params
  · obtain ⟨params, rfl⟩ := restart
    simp only [Party.next] at running ⊢
    split at running
    next ready =>
      simp only [Function.update_self, Option.some.injEq] at running
      subst running
      rw [if_pos ready]
      exact sound id params _ orderly.1 ready
    next waiting =>
      rw [if_neg waiting]
      exact orderly.2 id program running
  · have kept (params : Params) : label ≠ .start id params := fun same => restart ⟨params, same⟩
    cases before : s.running id with
    | none =>
      -- A program without a start label stays absent.
      exfalso
      cases label with
      | environment event => simp [Party.next, before] at running
      | start starter params =>
        have apart : id ≠ starter := by
          rintro rfl
          exact kept params rfl
        simp only [Party.next] at running
        split at running <;> simp [apart, before] at running
      | step mover choice =>
        simp only [Party.next] at running
        split at running
        next request resume moving =>
          by_cases same : id = mover
          · subst same
            rw [before] at moving
            cases moving
          · simp [same, before] at running
        · simp [before] at running
    | some earlier =>
      obtain ⟨later, found, lasting⟩ :=
        Lasting.next orderly before (orderly.2 id earlier before) label kept
      rw [found] at running
      cases running
      exact lasting

theorem exec_orderly (sound : p.Sound post) (labels : List (JointLabel Id Params Choice Env)) :
    p.Orderly post (p.machine.exec p.machine.init labels) := by
  refine p.machine.exec_invariant (p.Orderly post) (fun s label orderly => orderly.next sound label)
    _ ⟨p.init_inv, ?_⟩ labels
  intro id program running
  cases running

theorem exec_lasting (sound : p.Sound post) (orderly : p.Orderly post s) {id : Id}
    {allowed : S → Request → Prop} {further : S → A → Prop} (running : s.running id = some program)
    (lasting : p.Lasting id allowed further program s.shared)
    (labels : List (JointLabel Id Params Choice Env))
    (kept : ∀ label ∈ labels, ∀ params, label ≠ .start id params) :
    ∃ later, (p.machine.exec s labels).running id = some later ∧
      p.Lasting id allowed further later (p.machine.exec s labels).shared := by
  induction labels generalizing s program with
  | nil => exact ⟨program, running, lasting⟩
  | cons label rest ih =>
    obtain ⟨later, found, safe⟩ :=
      lasting.next orderly running label (kept label (List.mem_cons_self ..))
    exact ih (orderly.next sound label) found safe
      fun other member => kept other (List.mem_cons_of_mem _ member)

theorem exec_within {id : Id} {bound : Nat} (running : s.running id = some program)
    (within : program.Within bound) (labels : List (JointLabel Id Params Choice Env))
    (kept : ∀ label ∈ labels, ∀ params, label ≠ .start id params)
    (enough : bound ≤ labels.countP (·.isStep id)) :
    ∃ value, (p.machine.exec s labels).running id = some (.done value) := by
  induction labels generalizing s program bound with
  | nil =>
    cases Nat.le_zero.mp enough
    cases program with
    | done value => exact ⟨value, running⟩
    | call request resume => exact within.elim
  | cons label rest ih =>
    have later (other : JointLabel Id Params Choice Env) (member : other ∈ rest) :=
      kept other (List.mem_cons_of_mem _ member)
    by_cases own : label.isStep id = true
    · cases label with
      | start starter params => cases own
      | environment event => cases own
      | step mover choice =>
        obtain rfl : mover = id := of_decide_eq_true own
        cases program with
        | done value =>
          have same : (p.machine.next s (.step mover choice)).running mover =
              some (.done value) := by
            simp [Machine.next, machine, next, running]
          have ended : (Program.done value : Program Request Reply A).Within 0 := trivial
          exact ih same ended later (Nat.zero_le _)
        | call request resume =>
          cases bound with
          | zero => exact within.elim
          | succ bound =>
            have moved : (p.machine.next s (.step mover choice)).running mover =
                some (resume (p.discipline.serve mover s.shared request choice).2) := by
              simp [Machine.next, machine, next, running]
            refine ih moved (within _) later ?_
            simp only [List.countP_cons, own, if_true] at enough
            exact Nat.le_of_succ_le_succ enough
    · have same : (p.machine.next s label).running id = some program := by
        cases label with
        | environment event => exact running
        | start starter params =>
          have apart : id ≠ starter := by
            rintro rfl
            exact kept _ (List.mem_cons_self ..) params rfl
          simp only [Machine.next, machine, next]
          split
          · simpa [apart] using running
          · exact running
        | step mover choice =>
          have apart : id ≠ mover := fun same => own (by simp [JointLabel.isStep, same])
          simp only [Machine.next, machine, next]
          split
          · simpa [apart] using running
          · exact running
      refine ih same within later ?_
      simpa only [List.countP_cons, own, if_false, Nat.add_zero, Bool.false_eq_true] using enough

end Party

end Library
