import Augr.Foundation.Scan

/-! Programs that call on a world they share with others.

A program is a tree: it has ended, or it makes a call and goes on according to the answer. A protocol says
which calls a program may make after the answers it has had, and an invariant of the world and of the
protocol states of its programs holds in every interleaving. -/

set_option autoImplicit false

namespace Augr.Foundation

structure Interface where
  Call : Type
  Answer : Call → Type

inductive Program (i : Interface) (α : Type) where
  | done (value : α)
  | call (request : i.Call) (next : i.Answer request → Program i α)

namespace Program

variable {i : Interface} {α β : Type}

def bind : Program i α → (α → Program i β) → Program i β
  | .done value, rest => rest value
  | .call request next, rest => .call request fun answer => (next answer).bind rest

instance : Monad (Program i) where
  pure := .done
  bind := bind

def ask (request : i.Call) : Program i (i.Answer request) := .call request .done

end Program

abbrev Script (i : Interface) (α : Type) := ExceptT Fault (Program i) α

structure Protocol (i : Interface) (σ : Type) where
  allows : σ → i.Call → Prop
  after : σ → (request : i.Call) → i.Answer request → σ

section
variable {i : Interface} {σ α β : Type} {protocol : Protocol i σ} {program : Program i α} {s : σ} {ends : σ → α → Prop}

/-- Every call is allowed, whatever the answers are, and the program ends as described. -/
def Follows (protocol : Protocol i σ) (ends : σ → α → Prop) : σ → Program i α → Prop
  | s, .done value => ends s value
  | s, .call request next => protocol.allows s request ∧
      ∀ answer, Follows protocol ends (protocol.after s request answer) (next answer)

theorem Follows.bind {finally_ : σ → β → Prop} {rest : α → Program i β} (first : Follows protocol ends s program)
    (second : ∀ s value, ends s value → Follows protocol finally_ s (rest value)) :
    Follows protocol finally_ s (program >>= rest) := by
  induction program generalizing s with
  | done value => exact second s value first
  | call request next ih =>
    obtain ⟨allowed, onward⟩ := first
    exact ⟨allowed, fun answer => ih answer (onward answer)⟩

theorem Follows.imp {weaker : σ → α → Prop} (follows : Follows protocol ends s program)
    (weakens : ∀ s value, ends s value → weaker s value) : Follows protocol weaker s program := by
  induction program generalizing s with
  | done value => exact weakens s value follows
  | call request next ih =>
    obtain ⟨allowed, onward⟩ := follows
    exact ⟨allowed, fun answer => ih answer (onward answer)⟩

def FollowsScript (protocol : Protocol i σ) (ends : σ → α → Prop) (s : σ) (script : Script i α) : Prop :=
  Follows protocol (fun s result => ∀ value, result = .ok value → ends s value) s script.run

theorem FollowsScript.bind {finally_ : σ → β → Prop} {script : Script i α} {rest : α → Script i β}
    (first : FollowsScript protocol ends s script)
    (second : ∀ s value, ends s value → FollowsScript protocol finally_ s (rest value)) :
    FollowsScript protocol finally_ s (script >>= rest) := by
  refine Follows.bind first fun s result ended => ?_
  cases result with
  | error fault => exact nofun
  | ok value => exact second s value (ended value rfl)

theorem followsScript_pure {value : α} (ended : ends s value) : FollowsScript protocol ends s (pure value) := by
  intro other same
  cases same
  exact ended

theorem FollowsScript.imp {weaker : σ → α → Prop} {script : Script i α}
    (follows : FollowsScript protocol ends s script) (weakens : ∀ s value, ends s value → weaker s value) :
    FollowsScript protocol weaker s script :=
  Follows.imp follows fun s _ ended value same => weakens s value (ended value same)

theorem followsScript_lift (follows : Follows protocol ends s program) :
    FollowsScript protocol ends s (ExceptT.lift program) := by
  refine Follows.bind follows fun s value ended other same => ?_
  cases same
  exact ended

theorem followsScript_throw {fault : Fault} : FollowsScript protocol ends s (throw fault : Script i α) := nofun

def freely (calls : i.Call → Prop) : Protocol i Unit := ⟨fun _ request => calls request, fun _ _ _ => ()⟩

theorem Follows.at_rest {calls : i.Call → Prop} {ends : Unit → α → Prop}
    (makes : Follows (freely calls) ends () program)
    (ignored : ∀ request, calls request → protocol.allows s request ∧ ∀ answer, protocol.after s request answer = s) :
    Follows protocol (fun s' value => s' = s ∧ ends () value) s program := by
  induction program with
  | done value => exact ⟨rfl, makes⟩
  | call request next ih =>
    obtain ⟨made, onward⟩ := makes
    obtain ⟨allowed, kept⟩ := ignored request made
    refine ⟨allowed, fun answer => ?_⟩
    rw [kept answer]
    exact ih answer (onward answer)

theorem FollowsScript.at_rest {calls : i.Call → Prop} {ends : Unit → α → Prop} {script : Script i α}
    (makes : FollowsScript (freely calls) ends () script)
    (ignored : ∀ request, calls request → protocol.allows s request ∧ ∀ answer, protocol.after s request answer = s) :
    FollowsScript protocol (fun s' value => s' = s ∧ ends () value) s script :=
  (Follows.at_rest makes ignored).imp fun _ _ ended value same => ⟨ended.1, ended.2 value same⟩

end

abbrev Exchange (i : Interface) := (request : i.Call) × i.Answer request

section
variable {i : Interface} {σ α : Type} {protocol : Protocol i σ}

/-- The program can exchange these calls and answers, and goes on as the last one says. -/
inductive Runs : Program i α → List (Exchange i) → Program i α → Prop
  | none (program : Program i α) : Runs program [] program
  | next {request : i.Call} {next : i.Answer request → Program i α} {answer : i.Answer request}
      {trace : List (Exchange i)} {rest : Program i α} (later : Runs (next answer) trace rest) :
      Runs (.call request next) (⟨request, answer⟩ :: trace) rest

/-- The exchanges when each call has its answer fixed beforehand. -/
def Program.perform (answers : (request : i.Call) → i.Answer request) : Program i α → List (Exchange i)
  | .done _ => []
  | .call request next => ⟨request, answers request⟩ :: (next (answers request)).perform answers

def Program.result (answers : (request : i.Call) → i.Answer request) : Program i α → α
  | .done value => value
  | .call request next => (next (answers request)).result answers

theorem Program.perform_runs (answers : (request : i.Call) → i.Answer request) (program : Program i α) :
    Runs program (program.perform answers) (.done (program.result answers)) := by
  induction program with
  | done value => exact .none _
  | call request next ih => exact .next (ih (answers request))

def Protocol.follow (protocol : Protocol i σ) (s : σ) (exchange : Exchange i) : σ :=
  protocol.after s exchange.1 exchange.2

/-- Each call of the trace is allowed where it is made. -/
def Protocol.AllowsAll (protocol : Protocol i σ) : σ → List (Exchange i) → Prop
  | _, [] => True
  | s, exchange :: trace => protocol.allows s exchange.1 ∧ AllowsAll protocol (protocol.follow s exchange) trace

theorem Follows.allowsAll {ends : σ → α → Prop} {s : σ} {program rest : Program i α} {trace : List (Exchange i)}
    (follows : Follows protocol ends s program) (runs : Runs program trace rest) : protocol.AllowsAll s trace := by
  induction runs generalizing s with
  | none program => trivial
  | next later ih => exact ⟨follows.1, ih (follows.2 _)⟩

end

structure System (i : Interface) (World α : Type) where
  world : World
  threads : List (Program i α)

section
variable {i : Interface} {World α σ : Type}

/-- How the world answers a call of a thread, and what is left of it. -/
abbrev Handler (i : Interface) (World : Type) := World → Nat → (request : i.Call) → i.Answer request → World → Prop

/-- A program starts, a thread makes a call, or the world moves by itself. A thread that stops is one that is
never chosen again. -/
inductive Step (starts : Program i α → Prop) (handles : Handler i World) (moves : World → World → Prop) :
    System i World α → System i World α → Prop
  | start {system : System i World α} {program : Program i α} (allowed : starts program) :
      Step starts handles moves system ⟨system.world, system.threads ++ [program]⟩
  | act {system : System i World α} {thread : Nat} {request : i.Call} {next : i.Answer request → Program i α}
      {answer : i.Answer request} {after : World} (here : system.threads[thread]? = some (.call request next))
      (handled : handles system.world thread request answer after) :
      Step starts handles moves system ⟨after, system.threads.set thread (next answer)⟩
  | move {system : System i World α} {after : World} (moved : moves system.world after) :
      Step starts handles moves system ⟨after, system.threads⟩

def Reaches (starts : Program i α → Prop) (handles : Handler i World) (moves : World → World → Prop) :
    System i World α → System i World α → Prop := Relation.ReflTransGen (Step starts handles moves)

/-- The programs follow the protocol from these states, and the invariant holds of the states and the world. -/
def Invariant (protocol : Protocol i σ) (ends : σ → α → Prop) (holds : World → List σ → Prop)
    (system : System i World α) : Prop :=
  ∃ states, List.Forall₂ (Follows protocol ends) states system.threads ∧ holds system.world states

variable {starts : Program i α → Prop} {handles : Handler i World} {moves : World → World → Prop}
  {protocol : Protocol i σ} {ends : σ → α → Prop} {holds : World → List σ → Prop}

theorem forall₂_set {β γ : Type} {related : β → γ → Prop} {lefts : List β} {rights : List γ}
    (matched : List.Forall₂ related lefts rights) (n : Nat) {left : β} {right : γ} (pair : related left right) :
    List.Forall₂ related (lefts.set n left) (rights.set n right) := by
  induction matched generalizing n with
  | nil => exact .nil
  | cons first rest ih =>
    cases n with
    | zero => exact .cons pair rest
    | succ n => exact .cons first (ih n)

/-- An invariant that holds when a program starts, when an allowed call is answered and when the world moves
holds in everything that is reached. -/
theorem Reaches.invariant {before after : System i World α} (reaches : Reaches starts handles moves before after)
    (initially : Invariant protocol ends holds before)
    (start : ∀ world states program, starts program → holds world states →
      ∃ s, Follows protocol ends s program ∧ holds world (states ++ [s]))
    (act : ∀ world states thread s request answer next, holds world states → states[thread]? = some s →
      protocol.allows s request → handles world thread request answer next →
      holds next (states.set thread (protocol.after s request answer)))
    (move : ∀ world states next, holds world states → moves world next → holds next states) :
    Invariant protocol ends holds after := by
  induction reaches with
  | refl => exact initially
  | tail _ step ih =>
    obtain ⟨states, follow, held⟩ := ih
    cases step with
    | @start program allowed =>
      obtain ⟨s, follows, still⟩ := start _ states program allowed held
      exact ⟨states ++ [s], List.rel_append follow (.cons follows .nil), still⟩
    | @act thread request next answer after here handled =>
      obtain ⟨s, isState, follows⟩ := getElem?_right follow.flip here
      refine ⟨states.set thread (protocol.after s request answer), forall₂_set follow thread (follows.2 answer), ?_⟩
      exact act _ states thread s request answer after held isState follows.1 handled
    | @move after moved => exact ⟨states, follow, move _ states after held moved⟩

/-! A schedule that is played against a world with determined answers. -/

inductive Choice (i : Interface) (α : Type) where
  | start (program : Program i α)
  | act (thread : Nat)

abbrev Performer (i : Interface) (World : Type) :=
  World → Nat → (request : i.Call) → Option (i.Answer request × World)

def System.choose (performs : Performer i World) (system : System i World α) : Choice i α → Option (System i World α)
  | .start program => some ⟨system.world, system.threads ++ [program]⟩
  | .act thread =>
      match system.threads[thread]? with
      | some (.call request next) =>
          (performs system.world thread request).map fun result => ⟨result.2, system.threads.set thread (next result.1)⟩
      | _ => none

def System.play (performs : Performer i World) (system : System i World α) (choices : List (Choice i α)) :
    Option (System i World α) := choices.foldlM (System.choose performs) system

variable {performs : Performer i World} {system after : System i World α}
    (sound : ∀ world thread request answer next, performs world thread request = some (answer, next) →
      handles world thread request answer next)
include sound

theorem System.choose_step {choice : Choice i α}
    (allowed : ∀ program, choice = .start program → starts program) (chosen : system.choose performs choice = some after) :
    Step starts handles moves system after := by
  cases choice with
  | start program =>
    cases chosen
    exact .start (allowed program rfl)
  | act thread =>
    simp only [System.choose] at chosen
    split at chosen
    · rename_i request next here
      rw [Option.map_eq_some_iff] at chosen
      obtain ⟨⟨answer, world⟩, performed, rfl⟩ := chosen
      exact .act here (sound _ _ _ _ _ performed)
    · cases chosen

theorem System.play_reaches {choices : List (Choice i α)}
    (allowed : ∀ program, .start program ∈ choices → starts program) (played : system.play performs choices = some after) :
    Reaches starts handles moves system after := by
  induction choices generalizing system with
  | nil =>
    cases played
    exact .refl
  | cons choice rest ih =>
    rw [System.play, List.foldlM_cons, Option.bind_eq_bind, Option.bind_eq_some_iff] at played
    obtain ⟨next, chosen, played⟩ := played
    refine .head (System.choose_step sound (fun program same => allowed program ?_) chosen)
      (ih (fun program member => allowed program (List.mem_cons_of_mem _ member)) played)
    rw [same]
    exact List.mem_cons_self

end

end Augr.Foundation
