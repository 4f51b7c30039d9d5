/-!
A value kept for a while after it was loaded. Callers share it under a lock, and updates change what
is loaded. Whatever is done between two points at which a caller waits is done at once; loads that
fail and callers who give up are left out.
-/

namespace OrderDesk

structure Cache (Value Time : Type) where
  held : Option (Value × Time) := none
  deriving DecidableEq, Repr

namespace Cache

variable {Value Time : Type}

def empty : Cache Value Time := ⟨none⟩

def store (value : Value) (now : Time) : Cache Value Time := ⟨some (value, now)⟩

def fresh? [Sub Time] [LT Time] [DecidableRel (· < · : Time → Time → Prop)]
    (cache : Cache Value Time) (lifetime now : Time) : Option Value :=
  match cache.held with
  | some (value, loadedAt) => if now - loadedAt < lifetime then some value else none
  | none => none

/-- A fresh value, or else a newly loaded one, which is then kept. Callers that wait for each other
are served one after the other, each looking anew. -/
def get [Sub Time] [LT Time] [DecidableRel (· < · : Time → Time → Prop)]
    {m : Type → Type} [Monad m] (cache : Cache Value Time) (lifetime now : Time)
    (load : m Value) : m (Value × Cache Value Time) :=
  match cache.fresh? lifetime now with
  | some value => pure (value, cache)
  | none => do
    let value ← load
    pure (value, .store value now)

/-! ## Callers who come at one time -/

/-- What happens at a cache. The callers who come at one time are numbered as they come, and updates
as they are committed. -/
inductive Happening (Value Time : Type)
  | invalidated
  | loaded (value : Value) (time : Time)
  | answered (caller : Nat) (value : Value) (time : Time)
  | came (caller : Nat)
  | read (caller : Nat) (value : Value)
  | committed (update : Nat) (value : Value)
  | returned (update : Nat)
  deriving DecidableEq, Repr

namespace Happening

variable {Value Time : Type}

def load? : Happening Value Time → Option (Value × Time)
  | loaded value time => some (value, time)
  | _ => none

def answer? : Happening Value Time → Option (Nat × Value)
  | answered caller value _ => some (caller, value)
  | _ => none

end Happening

structure Site (Value Time : Type) where
  cache : Cache Value Time := .empty
  history : List (Happening Value Time) := []
  deriving DecidableEq, Repr

/-- The callers at a cache: those who wait for the lock, the one who has it and loads, and how many
have come. -/
structure Crowd (Value Time : Type) extends Site Value Time where
  waiting : List Nat := []
  loading : Option Nat := none
  arrived : Nat := 0
  deriving DecidableEq, Repr

inductive Move
  | arrive
  /-- the lock is free, and the caller who has waited longest takes it -/
  | enter
  /-- a value has been loaded, and the lock is free again -/
  | finish
  deriving DecidableEq, Repr

section

variable {Value Time : Type} [Sub Time] [LT Time] [DecidableRel (· < · : Time → Time → Prop)]
  (lifetime now : Time) (load : Nat → Value)

namespace Crowd

variable (crowd : Crowd Value Time)

/-- A move, if it can be made. The first value to be loaded is `load 0`, and so on. -/
def move : Move → Option (Crowd Value Time)
  | .arrive =>
    match crowd.cache.fresh? lifetime now with
    | some value => some { crowd with
        history := crowd.history ++ [.answered crowd.arrived value now]
        arrived := crowd.arrived + 1 }
    | none => some { crowd with
        waiting := crowd.waiting ++ [crowd.arrived]
        arrived := crowd.arrived + 1 }
  | .enter =>
    match crowd.waiting, crowd.loading with
    | caller :: waiting, none =>
      match crowd.cache.fresh? lifetime now with
      | some value => some { crowd with
          history := crowd.history ++ [.answered caller value now]
          waiting }
      | none => some { crowd with waiting, loading := some caller }
    | _, _ => none
  | .finish =>
    match crowd.loading with
    | some caller =>
      let value := load (crowd.history.filterMap (·.load?)).length
      some { crowd with
        cache := .store value now
        history := crowd.history ++ [.loaded value now, .answered caller value now]
        loading := none }
    | none => none

def moves (crowd : Crowd Value Time) : List Move → Option (Crowd Value Time)
  | [] => some crowd
  | first :: rest => (crowd.move lifetime now load first).bind (·.moves rest)

def isDone : Bool :=
  crowd.waiting.isEmpty && crowd.loading.isNone

end Crowd

/-- The value is dropped, or some callers come at one time and make their moves. -/
inductive Step (Time : Type)
  | invalidate
  | call (now : Time) (schedule : List Move)
  deriving DecidableEq, Repr

namespace Site

variable (site : Site Value Time)

def after : Step Time → Option (Site Value Time)
  | .invalidate => some ⟨.empty, site.history ++ [.invalidated]⟩
  | .call now schedule => do
    let crowd ← Crowd.moves lifetime now load { toSite := site } schedule
    if crowd.isDone then some crowd.toSite else none

def afterAll (steps : List (Step Time)) : Option (Site Value Time) :=
  steps.foldlM (after lifetime load) site

end Site

/-- A crowd while updates change what is loaded. A load first reads and then hands over what it has
read; an update first commits and then drops the cached value, whoever has the lock. -/
structure Traffic (Value Time : Type) extends Crowd Value Time where
  /-- the value committed last -/
  committed : Value
  /-- what the caller who loads has read -/
  read : Option Value := none
  updates : Nat := 0
  /-- the updates that have been committed and have not returned -/
  returning : List Nat := []
  deriving DecidableEq, Repr

/-- What callers and updates do in turn. The clock is looked at anew for each move. -/
inductive Turn (Value Time : Type)
  | arrive (now : Time)
  | enter (now : Time)
  | read
  | finish (now : Time)
  | commit (value : Value)
  /-- an update drops the cached value and returns -/
  | conclude (update : Nat)
  deriving DecidableEq, Repr

namespace Traffic

variable (traffic : Traffic Value Time)

def note (happening : Happening Value Time) : Traffic Value Time :=
  { traffic with history := traffic.history ++ [happening] }

/-- A move of the callers, with the value that a load hands over in it. -/
def move (now : Time) (value : Value) (move : Move) : Option (Traffic Value Time) :=
  (traffic.toCrowd.move lifetime now (fun _ => value) move).map ({ traffic with toCrowd := · })

def turn : Turn Value Time → Option (Traffic Value Time)
  | .arrive now =>
    (traffic.note (.came traffic.arrived)).move lifetime now traffic.committed .arrive
  | .enter now => traffic.move lifetime now traffic.committed .enter
  | .read =>
    match traffic.loading, traffic.read with
    | some caller, none =>
      some { traffic.note (.read caller traffic.committed) with read := some traffic.committed }
    | _, _ => none
  | .finish now => do
    let value ← traffic.read
    let next ← traffic.move lifetime now value .finish
    some { next with read := none }
  | .commit value =>
    let update := traffic.updates + 1
    some { traffic.note (.committed update value) with
      committed := value
      updates := update
      returning := traffic.returning ++ [update] }
  | .conclude update =>
    if update ∈ traffic.returning then
      some { (traffic.note .invalidated).note (.returned update) with
        cache := .empty
        returning := traffic.returning.erase update }
    else none

def turns (schedule : List (Turn Value Time)) : Option (Traffic Value Time) :=
  schedule.foldlM (turn lifetime) traffic

end Traffic

end

end Cache

end OrderDesk
