import Mathlib.Data.List.Pairwise
import Mathlib.Logic.Relation

namespace Imx6Gateway
namespace Library

/-!
# A copy that is kept by numbered versions

A source has a value that changes.  Every change gives it the next version and
sends the value with its version; the newest one may be sent again.  The
messages arrive in the order in which they were sent, if they arrive.  The copy
takes over what arrives, or passes it over, and answers what it takes over with
the version; the answers arrive in any order, any number of times.

The version that was confirmed last is one the copy has taken over.  Versions
only grow along the way, so a confirmation of the newest version means that the
copy has the newest value.
-/

structure VersionedCopy (Value : Type) where
  version : Nat
  value : Value
  /-- Sent and not yet arrived, the oldest first. -/
  underway : List (Nat × Value)
  /-- What the copy has taken over last. -/
  taken : Option (Nat × Value)
  answers : List Nat
  confirmed : Nat

namespace VersionedCopy

variable {Value : Type}

/-- Nothing has been sent. -/
def start (value : Value) : VersionedCopy Value where
  version := 0
  value := value
  underway := []
  taken := none
  answers := []
  confirmed := 0

inductive Step (copy : VersionedCopy Value) : VersionedCopy Value -> Prop where
  | issue (value : Value) :
      Step copy { copy with
        version := copy.version + 1
        value := value
        underway := copy.underway ++ [(copy.version + 1, value)] }
  | resend :
      Step copy { copy with underway := copy.underway ++ [(copy.version, copy.value)] }
  | lose (position : Nat) :
      Step copy { copy with underway := copy.underway.eraseIdx position }
  | take (message : Nat × Value) (later : List (Nat × Value))
      (first : copy.underway = message :: later) :
      Step copy { copy with
        underway := later
        taken := some message
        answers := message.1 :: copy.answers }
  | pass (message : Nat × Value) (later : List (Nat × Value))
      (first : copy.underway = message :: later) : Step copy { copy with underway := later }
  | confirm (version : Nat) (answered : version ∈ copy.answers) :
      Step copy { copy with confirmed := version }

/-- The message is one that was sent: its version is not ahead, and the newest
version stands for the newest value. -/
def Sent (copy : VersionedCopy Value) (message : Nat × Value) : Prop :=
  message.1 ≤ copy.version ∧ (message.1 = copy.version -> message.2 = copy.value)

/-- A version that is not ahead of what the copy has. -/
def Reached (copy : VersionedCopy Value) (version : Nat) : Prop :=
  exists message, copy.taken = some message ∧ version ≤ message.1

/-- Versions grow from the copy over the messages to the source. -/
structure Ordered (copy : VersionedCopy Value) : Prop where
  underway : forall message, message ∈ copy.underway -> copy.Sent message
  sorted : copy.underway.Pairwise fun earlier later => earlier.1 ≤ later.1
  taken : forall message, copy.taken = some message -> copy.Sent message ∧
    forall later, later ∈ copy.underway -> message.1 ≤ later.1
  answers : forall version, version ∈ copy.answers -> copy.Reached version
  confirmed : copy.confirmed = 0 ∨ copy.Reached copy.confirmed

theorem ordered_start (value : Value) : (start value).Ordered where
  underway := by
    intro message inside
    cases inside
  sorted := List.Pairwise.nil
  taken := by
    intro message none
    cases none
  answers := by
    intro version inside
    cases inside
  confirmed := Or.inl rfl

section Sending

variable {copy : VersionedCopy Value}

/-- What was sent is behind the next version. -/
theorem Sent.issue {message : Nat × Value} (sent : copy.Sent message) (value : Value)
    (underway : List (Nat × Value)) :
    { copy with version := copy.version + 1, value := value, underway := underway }.Sent
      message := by
  refine ⟨Nat.le_succ_of_le sent.1, ?_⟩
  intro same
  have ahead : message.1 ≤ copy.version := sent.1
  have next : message.1 = copy.version + 1 := same
  omega

/-- A message with the newest version is sent last. -/
theorem sorted_concat {messages : List (Nat × Value)} {message : Nat × Value}
    (sorted : messages.Pairwise fun earlier later => earlier.1 ≤ later.1)
    (last : forall earlier, earlier ∈ messages -> earlier.1 ≤ message.1) :
    (messages ++ [message]).Pairwise fun earlier later => earlier.1 ≤ later.1 := by
  rw [List.pairwise_append]
  refine ⟨sorted, List.pairwise_singleton _ _, ?_⟩
  intro earlier inside other only
  rw [List.mem_singleton.mp only]
  exact last earlier inside

theorem Ordered.issue (ordered : copy.Ordered) (value : Value) :
    { copy with
      version := copy.version + 1
      value := value
      underway := copy.underway ++ [(copy.version + 1, value)] }.Ordered where
  underway := by
    intro message inside
    rcases List.mem_append.mp inside with earlier | last
    · exact (ordered.underway message earlier).issue value _
    · rw [List.mem_singleton.mp last]
      exact ⟨Nat.le_refl _, fun _ => rfl⟩
  sorted := by
    apply sorted_concat ordered.sorted
    intro earlier inside
    exact Nat.le_succ_of_le (ordered.underway earlier inside).1
  taken := by
    intro message taken
    have before := ordered.taken message taken
    refine ⟨before.1.issue value _, ?_⟩
    intro later inside
    rcases List.mem_append.mp inside with earlier | last
    · exact before.2 later earlier
    · rw [List.mem_singleton.mp last]
      exact Nat.le_succ_of_le before.1.1
  answers := ordered.answers
  confirmed := ordered.confirmed

theorem Ordered.resend (ordered : copy.Ordered) :
    { copy with underway := copy.underway ++ [(copy.version, copy.value)] }.Ordered where
  underway := by
    intro message inside
    rcases List.mem_append.mp inside with earlier | last
    · exact ordered.underway message earlier
    · rw [List.mem_singleton.mp last]
      exact ⟨Nat.le_refl _, fun _ => rfl⟩
  sorted := by
    apply sorted_concat ordered.sorted
    exact fun earlier inside => (ordered.underway earlier inside).1
  taken := by
    intro message taken
    have before := ordered.taken message taken
    refine ⟨before.1, ?_⟩
    intro later inside
    rcases List.mem_append.mp inside with earlier | last
    · exact before.2 later earlier
    · rw [List.mem_singleton.mp last]
      exact before.1.1
  answers := ordered.answers
  confirmed := ordered.confirmed

/-- Messages can get lost anywhere. -/
theorem Ordered.fewer (ordered : copy.Ordered) {kept : List (Nat × Value)}
    (sublist : kept.Sublist copy.underway) : { copy with underway := kept }.Ordered where
  underway message inside := ordered.underway message (sublist.subset inside)
  sorted := ordered.sorted.sublist sublist
  taken message taken := ⟨(ordered.taken message taken).1,
    fun later inside => (ordered.taken message taken).2 later (sublist.subset inside)⟩
  answers := ordered.answers
  confirmed := ordered.confirmed

/-- What arrives is not older than what the copy has. -/
theorem Reached.take {version : Nat} (reached : copy.Reached version) (ordered : copy.Ordered)
    {message : Nat × Value} {later : List (Nat × Value)}
    (first : copy.underway = message :: later) (answers : List Nat) :
    { copy with underway := later, taken := some message, answers := answers }.Reached version := by
  rcases reached with ⟨held, taken, behind⟩
  refine ⟨message, rfl, Nat.le_trans behind ((ordered.taken held taken).2 message ?_)⟩
  rw [first]
  exact List.mem_cons_self

theorem Ordered.take (ordered : copy.Ordered) {message : Nat × Value} {later : List (Nat × Value)}
    (first : copy.underway = message :: later) :
    { copy with
      underway := later
      taken := some message
      answers := message.1 :: copy.answers }.Ordered where
  underway := by
    intro other inside
    apply ordered.underway other
    rw [first]
    exact List.mem_cons_of_mem message inside
  sorted := by
    have sorted := ordered.sorted
    rw [first] at sorted
    exact sorted.of_cons
  taken := by
    intro other same
    cases same
    refine ⟨ordered.underway message (by rw [first]; exact List.mem_cons_self), ?_⟩
    have sorted := ordered.sorted
    rw [first, List.pairwise_cons] at sorted
    exact sorted.1
  answers := by
    intro version inside
    rcases List.mem_cons.mp inside with same | earlier
    · exact ⟨message, rfl, Nat.le_of_eq same⟩
    · exact (ordered.answers version earlier).take ordered first _
  confirmed := ordered.confirmed.imp_right fun reached => reached.take ordered first _

theorem Ordered.confirm (ordered : copy.Ordered) {version : Nat}
    (answered : version ∈ copy.answers) : { copy with confirmed := version }.Ordered where
  underway := ordered.underway
  sorted := ordered.sorted
  taken := ordered.taken
  answers := ordered.answers
  confirmed := Or.inr (ordered.answers version answered)

theorem ordered_step {next : VersionedCopy Value} (ordered : copy.Ordered)
    (step : copy.Step next) : next.Ordered := by
  cases step with
  | issue value => exact ordered.issue value
  | resend => exact ordered.resend
  | lose position => exact ordered.fewer (List.eraseIdx_sublist _ position)
  | take message later first => exact ordered.take first
  | pass message later first =>
      apply ordered.fewer
      rw [first]
      exact List.sublist_cons_self message later
  | confirm version answered => exact ordered.confirm answered

end Sending

/-- The states that are reached from a start. -/
def Reachable (value : Value) (copy : VersionedCopy Value) : Prop :=
  Relation.ReflTransGen Step (start value) copy

theorem ordered_of_reachable {value : Value} {copy : VersionedCopy Value}
    (reachable : Reachable value copy) : copy.Ordered := by
  induction reachable with
  | refl => exact ordered_start value
  | tail _ step ordered => exact ordered_step ordered step

/-- Where the newest version is confirmed, the copy has the newest value. -/
theorem taken_of_confirmed {value : Value} {copy : VersionedCopy Value}
    (reachable : Reachable value copy) (issued : 0 < copy.version)
    (confirmed : copy.confirmed = copy.version) :
    copy.taken = some (copy.version, copy.value) := by
  have ordered := ordered_of_reachable reachable
  rcases ordered.confirmed with none | ⟨message, taken, reached⟩
  · omega
  · rcases (ordered.taken message taken).1 with ⟨behind, newest⟩
    have version : message.1 = copy.version := by omega
    rw [taken, ← version, ← newest version]

end VersionedCopy
end Library
end Imx6Gateway
