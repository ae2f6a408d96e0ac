import Imx6Gateway.Board.OfflineCache

namespace Imx6Gateway
namespace Board

open Library

/-!
# The sampling interval of the offline cache

A normal sample of a point is worth a row once in a minute.  `cacheMessage`
asks the policy, which notes the time of a sample as soon as it lets it
through, and inserts the row afterwards.  Here the insert may fail, which the
model of the queue leaves out.
-/

/-- A call of `cacheMessage`: the message, whether the cache is on and set up,
and what the insert answers. -/
structure CacheCall where
  metadata : PublishMeta
  isOn : Bool
  inserts : Bool
deriving DecidableEq

/-- The policy, and the rows that have been inserted. -/
structure SampledCache where
  samples : SampleTimes
  inserted : List PublishMeta

namespace SampledCache

/-- `OfflinePublishQueue::cacheMessage`, with its answer. -/
def cacheMessage (cache : SampledCache) (call : CacheCall) : SampledCache × Bool :=
  if !call.isOn then (cache, false)
  else
    let decision := shouldCache cache.samples call.metadata
    let decided := { cache with samples := decision.2 }
    if !decision.1 then (decided, false)
    else if !call.inserts then (decided, false)
    else ({ decided with inserted := decided.inserted ++ [call.metadata] }, true)

def start : SampledCache where
  samples := fun _ => none
  inserted := []

def system : TransitionSystem SampledCache CacheCall where
  initial := start
  step := fun cache call => (cache.cacheMessage call).1

/-- An insert that succeeds leaves what the model of the queue leaves. -/
theorem samples_cacheMessage (queue : OfflineQueue) (item : MqttItem) (metadata : PublishMeta)
    (nowMs : Int) (rows : List PublishMeta) :
    (queue.cacheMessage item metadata nowMs).samples =
      (cacheMessage ⟨queue.samples, rows⟩
        ⟨metadata, queue.cacheEnabled && queue.initialized, true⟩).1.samples := by
  unfold OfflineQueue.cacheMessage cacheMessage
  dsimp only
  cases queue.cacheEnabled && queue.initialized with
  | false => rfl
  | true =>
      cases decision : (shouldCache queue.samples metadata).1 with
      | false => rfl
      | true => rfl

/-! ## Samples -/

/-- A pack that the sampling rule decides about. -/
def IsSample (metadata : PublishMeta) : Prop :=
  metadata.messageType = "telemetry_pack" ∧ metadata.hasAlarm = false ∧
    metadata.hasInvalidData = false ∧ metadata.statusChanged = false

instance isSampleDecidable (metadata : PublishMeta) : Decidable (IsSample metadata) :=
  inferInstanceAs (Decidable (_ ∧ _))

structure SamePoint (first second : PublishMeta) : Prop where
  gateway : first.gatewayId = second.gatewayId
  port : first.portId = second.portId
  device : first.deviceId = second.deviceId
  point : first.pointKey = second.pointKey

theorem samePoint_iff {first second : PublishMeta} :
    SamePoint first second ↔ first.gatewayId = second.gatewayId ∧
      first.portId = second.portId ∧ first.deviceId = second.deviceId ∧
        first.pointKey = second.pointKey :=
  ⟨fun same => ⟨same.gateway, same.port, same.device, same.point⟩,
    fun same => ⟨same.1, same.2.1, same.2.2.1, same.2.2.2⟩⟩

instance samePointDecidable (first second : PublishMeta) : Decidable (SamePoint first second) :=
  decidable_of_iff _ samePoint_iff.symm

/-- The policy lets a sample through. -/
def allows (cache : SampledCache) (metadata : PublishMeta) : Bool :=
  (allowSample cache.samples metadata).1

theorem shouldCache_sample (times : SampleTimes) {metadata : PublishMeta}
    (sample : IsSample metadata) : shouldCache times metadata = allowSample times metadata := by
  rcases sample with ⟨type, alarm, invalid, status⟩
  unfold shouldCache
  rw [type, alarm, invalid, status, if_neg (by decide), if_neg (by decide), if_neg (by decide),
    if_pos rfl]
  rfl

/-- Only samples use the noted times. -/
theorem shouldCache_other (times : SampleTimes) {metadata : PublishMeta}
    (other : ¬IsSample metadata) : (shouldCache times metadata).2 = times := by
  unfold shouldCache
  split_ifs with alarm ack status pack flags
  · rfl
  · rfl
  · rfl
  · rfl
  · exact absurd ⟨pack, by simpa [and_assoc] using flags⟩ other
  · rfl

/-- A sample that is refused. -/
def Refused (cache : SampledCache) (call : CacheCall) : Prop :=
  call.isOn = true ∧ IsSample call.metadata ∧ cache.allows call.metadata = false

/-- A row of the point, not a minute older by the times of the messages. -/
def RecentRow (cache : SampledCache) (metadata : PublishMeta) : Prop :=
  exists row, row ∈ cache.inserted ∧ SamePoint row metadata ∧
    row.timestampMs ≤ metadata.timestampMs ∧
    metadata.timestampMs - row.timestampMs < kTelemetrySampleIntervalMs

/-- A sample is only refused for a recent row, and a call without a row does
not change what is refused later. -/
structure Fair (cache : SampledCache) (call : CacheCall) : Prop where
  refused : Refused cache call -> RecentRow cache call.metadata
  unused : (cache.cacheMessage call).2 = false ->
    (cache.cacheMessage call).1.samples = cache.samples

/-! ## When the rule is fair -/

/-- A sample that is let through is inserted, and one that is refused has its
joined name for itself and is not earlier than the sample that is noted. -/
structure Regular (cache : SampledCache) (call : CacheCall) : Prop where
  inserts : cache.allows call.metadata = true -> call.inserts = true
  ownName : cache.allows call.metadata = false ->
    forall row, row ∈ cache.inserted -> IsSample row ->
      sampleKey row = sampleKey call.metadata ->
      cache.samples (sampleKey call.metadata) = some row.timestampMs ->
        SamePoint row call.metadata ∧ row.timestampMs ≤ call.metadata.timestampMs

/-- The condition on a call. -/
def SamplesRegular (cache : SampledCache) (call : CacheCall) : Prop :=
  call.isOn = true -> IsSample call.metadata -> Regular cache call

/-- Every noted time is that of a row. -/
def Noted (cache : SampledCache) : Prop :=
  forall name last, cache.samples name = some last ->
    exists row, row ∈ cache.inserted ∧ IsSample row ∧ sampleKey row = name ∧
      row.timestampMs = last

theorem allowSample_true {times : SampleTimes} {metadata : PublishMeta}
    (allowed : (allowSample times metadata).1 = true) :
    (allowSample times metadata).2 =
      Function.update times (sampleKey metadata) (some metadata.timestampMs) := by
  unfold allowSample at allowed ⊢
  dsimp only at allowed ⊢
  rw [allowed, cond_true]

theorem allowSample_false {times : SampleTimes} {metadata : PublishMeta}
    (refused : (allowSample times metadata).1 = false) :
    (allowSample times metadata).2 = times ∧ exists last,
      times (sampleKey metadata) = some last ∧
        metadata.timestampMs - last < kTelemetrySampleIntervalMs := by
  unfold allowSample at refused ⊢
  dsimp only at refused ⊢
  rw [refused, cond_false]
  refine ⟨rfl, ?_⟩
  cases noted : times (sampleKey metadata) with
  | none =>
      rw [noted] at refused
      cases refused
  | some last =>
      rw [noted] at refused
      dsimp only at refused
      rw [Bool.or_eq_false_iff] at refused
      exact ⟨last, rfl, not_le.mp (of_decide_eq_false refused.2)⟩

/-- What a call makes of the noted times and the rows. -/
theorem cacheMessage_cases (cache : SampledCache) (call : CacheCall) :
    (exists rows, cache.cacheMessage call = (⟨cache.samples, cache.inserted ++ rows⟩,
        decide (rows ≠ []))) ∨
      call.isOn = true ∧ IsSample call.metadata ∧ cache.allows call.metadata = true ∧
        cache.cacheMessage call =
          (⟨Function.update cache.samples (sampleKey call.metadata)
              (some call.metadata.timestampMs),
            if call.inserts then cache.inserted ++ [call.metadata] else cache.inserted⟩,
            call.inserts) := by
  have without : (⟨cache.samples, cache.inserted ++ []⟩ : SampledCache) = cache := by
    rw [List.append_nil]
  unfold cacheMessage
  dsimp only
  cases call.isOn with
  | false => exact Or.inl ⟨[], by rw [without]; rfl⟩
  | true =>
      rw [Bool.not_true, if_neg Bool.false_ne_true]
      by_cases sample : IsSample call.metadata
      · rw [shouldCache_sample cache.samples sample]
        cases allowed : (allowSample cache.samples call.metadata).1 with
        | false =>
            rw [(allowSample_false allowed).1]
            exact Or.inl ⟨[], by rw [without]; rfl⟩
        | true =>
            refine Or.inr ⟨rfl, sample, allowed, ?_⟩
            rw [allowSample_true allowed]
            cases call.inserts with
            | false => rfl
            | true => rfl
      · rw [shouldCache_other cache.samples sample]
        refine Or.inl ?_
        cases (shouldCache cache.samples call.metadata).1 with
        | false => exact ⟨[], by rw [without]; rfl⟩
        | true =>
            cases call.inserts with
            | false => exact ⟨[], by rw [without]; rfl⟩
            | true => exact ⟨[call.metadata], rfl⟩

theorem Noted.cacheMessage {cache : SampledCache} (noted : Noted cache) {call : CacheCall}
    (regular : SamplesRegular cache call) : Noted (cache.cacheMessage call).1 := by
  rcases cache.cacheMessage_cases call with ⟨rows, same⟩ | ⟨isOn, sample, allowed, same⟩
  · rw [same]
    intro name last found
    rcases noted name last found with ⟨row, stored, rest⟩
    exact ⟨row, List.mem_append_left rows stored, rest⟩
  · rw [same, (regular isOn sample).inserts allowed, if_pos rfl]
    intro name last found
    by_cases here : name = sampleKey call.metadata
    · subst here
      dsimp only at found
      rw [Function.update_self] at found
      cases found
      exact ⟨call.metadata, List.mem_append_right _ List.mem_cons_self, sample, rfl, rfl⟩
    · dsimp only at found
      rw [Function.update_of_ne here] at found
      rcases noted name last found with ⟨row, stored, rest⟩
      exact ⟨row, List.mem_append_left _ stored, rest⟩

theorem fair_of_regular {cache : SampledCache} (noted : Noted cache) {call : CacheCall}
    (regular : SamplesRegular cache call) : Fair cache call where
  refused := by
    rintro ⟨isOn, sample, notAllowed⟩
    rcases (allowSample_false notAllowed).2 with ⟨last, found, close⟩
    rcases noted _ _ found with ⟨row, stored, rowSample, sameName, rfl⟩
    have own := (regular isOn sample).ownName notAllowed row stored rowSample sameName found
    exact ⟨row, stored, own.1, own.2, close⟩
  unused := by
    intro without
    rcases cache.cacheMessage_cases call with ⟨rows, same⟩ | ⟨isOn, sample, allowed, same⟩
    · rw [same]
    · rw [same, (regular isOn sample).inserts allowed] at without
      cases without

/-- In a run of regular calls the rule is fair all the way. -/
theorem fair_everywhere (calls : List CacheCall)
    (regular : system.Admissible SamplesRegular calls) :
    forall before call after, calls = before ++ call :: after ->
      Fair (system.run before) call := by
  intro before call after split
  subst split
  have noted : Noted (system.run before) := by
    refine system.invariant_run ?_ ?_ (system.admissible_initial regular)
    · intro name last found
      cases found
    · exact fun cache call noted regular => noted.cacheMessage regular
  exact fair_of_regular noted (system.admissible_step regular)

def sampleAt (timestampMs : Int) : PublishMeta where
  messageType := "telemetry_pack"
  gatewayId := "gateway_001"
  portId := "port_001"
  deviceId := 1
  pointKey := "temperature_humidity"
  priority := 0
  timestampMs := timestampMs

theorem steadySamples_fair :
    Fair (system.run [⟨sampleAt 100000, true, true⟩]) ⟨sampleAt 110000, true, true⟩ :=
  fair_everywhere [⟨sampleAt 100000, true, true⟩, ⟨sampleAt 110000, true, true⟩]
    ⟨fun _ _ => ⟨fun _ => rfl, fun _ _ absent => absurd absent List.not_mem_nil⟩,
      fun _ _ => ⟨fun _ => rfl, by
        intro _ row stored _ _ _
        have only : row = sampleAt 100000 := List.mem_singleton.mp stored
        rw [only]
        decide⟩, trivial⟩
    [⟨sampleAt 100000, true, true⟩] ⟨sampleAt 110000, true, true⟩ [] rfl

/-- The insert of the first sample fails, and the next one is refused all the same. -/
theorem failed_insert_uses_interval :
    ¬forall calls before call after, calls = before ++ call :: after ->
      Fair (system.run before) call := by
  intro fair
  have refused := (fair [⟨sampleAt 100000, true, false⟩, ⟨sampleAt 110000, true, true⟩]
    [⟨sampleAt 100000, true, false⟩] ⟨sampleAt 110000, true, true⟩ [] rfl).refused
  rcases refused ⟨rfl, by decide, by decide +kernel⟩ with ⟨row, stored, -⟩
  have none : (system.run [⟨sampleAt 100000, true, false⟩]).inserted = [] := by decide +kernel
  rw [none] at stored
  exact absurd stored List.not_mem_nil

end SampledCache
end Board
end Imx6Gateway
