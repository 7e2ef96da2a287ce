import ChatPlatform.EventLog.Chain
import ChatPlatform.Foundation.JsonReadings

/-!
# The integrity of a log

Processes that append in any order extend one chain, and a chain is determined by the
digest of its last event as long as no two of the texts that are digested collide.
-/

namespace ChatPlatform
namespace EventLog

open Json Growth

variable {F : Type} [FloatOps F]

section Digest

variable (sha256 : Str → Fin (2 ^ 256))

/-! ## Appending in turn -/

/-- A dictionary a program passes: its keys are distinct. -/
structure Payload (F : Type) where
  /-- Its entries. -/
  entries : Dict F
  /-- Its keys are distinct. -/
  keyed : wellKeyed (.dict entries) = true

/-- What a process appends. -/
structure Call (F : Type) where
  /-- The type of the event. -/
  eventType : Str
  /-- What it says. -/
  payload : Payload F

/-- The log, and which process was returned which event, in order. -/
structure World (P F : Type) where
  /-- The log. -/
  log : Str
  /-- The events and the processes they were returned to. -/
  returned : List (P × Event F)

namespace World

variable {P : Type}

/-- The events in order. -/
def events (world : World P F) : List (Event F) := world.returned.map (·.2)

/-- One process appends. -/
def step (world : World P F) (turn : P × Call F) : World P F :=
  match append sha256 world.log turn.2.eventType turn.2.payload.entries with
  | (.ok event, log) => { log, returned := world.returned ++ [(turn.1, event)] }
  | (.error _, log) => { world with log }

/-- Processes append one after the other to an empty log. -/
def run (schedule : List (P × Call F)) : World P F :=
  schedule.foldl (step sha256) { log := [], returned := [] }

end World

/-- What a turn does: it extends the chain by the event it returns, or it raises and
changes nothing. -/
def TurnSound {P : Type} (world : World P F) (turn : P × Call F) : Prop :=
  (∃ refusal, append sha256 world.log turn.2.eventType turn.2.payload.entries =
      (.error refusal, world.log) ∧ world.step sha256 turn = world) ∨
    ∃ event log', append sha256 world.log turn.2.eventType turn.2.payload.entries =
        (.ok event, log') ∧
      world.step sha256 turn = ⟨log', world.returned ++ [(turn.1, event)]⟩ ∧
      Appended sha256 world.log log' world.events turn.2.eventType turn.2.payload.entries event

/-- A log holds every event that was returned, once, in a chain that verifies. -/
structure Intact {P : Type} (world : World P F) : Prop where
  /-- The log verifies, and its events are the ones that were returned. -/
  verified : verify sha256 world.log = .ok world.events
  /-- The number of an event is its place, so that none occurs twice. -/
  placed : ∀ (place : Nat) (event : Event F), world.events[place]? = some event → event.seq = place
  /-- The next turn extends the chain or changes nothing. -/
  turns : ∀ turn, TurnSound sha256 world turn

/-- A turn at a log that verifies extends the chain or changes nothing. -/
theorem turnSound_of_verify
    [ReadableFloats F]
    {P : Type}
    {world : World P F}
    (verified : verify sha256 world.log = .ok world.events)
    (turn : P × Call F) : TurnSound sha256 world turn := by
  rcases append_cases sha256 verified turn.2.eventType turn.2.payload.keyed with
    ⟨refusal, refused⟩ | ⟨event, log', accepted, appended⟩
  · refine Or.inl ⟨refusal, refused, ?_⟩
    unfold World.step
    rw [refused]
  · refine Or.inr ⟨event, log', accepted, ?_, appended⟩
    unfold World.step
    rw [accepted]

/-- A turn keeps the log and the returned events together. -/
theorem verify_step
    [ReadableFloats F]
    {P : Type}
    {world : World P F}
    (verified : verify sha256 world.log = .ok world.events)
    (turn : P × Call F) :
    verify sha256 (world.step sha256 turn).log = .ok (world.step sha256 turn).events := by
  rcases turnSound_of_verify sha256 verified turn with
    ⟨_, -, unchanged⟩ | ⟨event, log', -, next, appended⟩
  · rw [unchanged]
    exact verified
  · rw [next, appended.verified]
    unfold World.events
    rw [List.map_append]
    rfl

/-- After every schedule the log verifies and holds the returned events. -/
theorem verify_run
    [ReadableFloats F]
    {P : Type}
    (schedule : List (P × Call F)) :
    verify sha256 (World.run sha256 schedule).log =
      .ok (World.run sha256 schedule).events := by
  unfold World.run
  induction schedule using List.reverseRecOn with
  | nil => rfl
  | append_singleton schedule turn inductionHypothesis =>
      rw [List.foldl_append]
      exact verify_step sha256 inductionHypothesis turn

/-- The number of an event of a chain is its place. -/
theorem seq_of_grown
    {events : List (Event F)}
    (grown : Grown (Linked sha256) events)
    {place : Nat}
    {event : Event F}
    (found : events[place]? = some event) : event.seq = place := by
  obtain ⟨bound, isEvent⟩ := List.getElem?_eq_some_iff.mp found
  have split : events = events.take place ++ event :: events.drop (place + 1) := by
    rw [← isEvent, List.getElem_cons_drop, List.take_append_drop]
  have linked := grown _ _ _ split
  rw [linked.seq, List.length_take, Nat.min_eq_left (Nat.le_of_lt bound)]

/-- After every schedule the log is intact. -/
theorem intact_run
    [ReadableFloats F]
    {P : Type}
    (schedule : List (P × Call F)) : Intact sha256 (World.run sha256 schedule) where
  verified := verify_run sha256 schedule
  placed := fun _ _ found =>
    seq_of_grown sha256 (grown_of_verify sha256 (verify_run sha256 schedule)) found
  turns := turnSound_of_verify sha256 (verify_run sha256 schedule)

/-! ## Tamper evidence -/

omit [FloatOps F] in
/-- Two events are equal; what they say is equal as dictionaries, whose order does not
count. -/
structure Event.Same (event other : Event F) : Prop where
  /-- The same place. -/
  seq : event.seq = other.seq
  /-- The same type. -/
  type : event.type = other.type
  /-- The same content. -/
  payload : arrangeDict event.payload = arrangeDict other.payload
  /-- The same predecessor. -/
  previous : event.previous = other.previous
  /-- The same digest. -/
  hash : event.hash = other.hash

/-- A parsed event says something with distinct keys. -/
theorem keyed_of_parse
    {line : Str}
    {lineNo : Nat}
    {event : Event F}
    (parsed : parse line lineNo = .ok event) :
    wellKeyed (.dict event.payload) = true := by
  unfold parse at parsed
  cases loaded : loads (F := F) ⟨true, true⟩ line with
  | none =>
      rw [loaded] at parsed
      cases parsed
  | some value =>
      rw [loaded] at parsed
      cases value with
      | dict raw =>
          have keyed := wellKeyed_loads loaded
          dsimp only at parsed
          unfold parseFields at parsed
          dsimp only at parsed
          split at parsed
          · cases parsed
          · split at parsed
            · cases parsed
            · split at parsed <;> try cases parsed
              rename_i payload previous hash isPayload isPrevious isHash
              exact wellKeyed_getDict keyed isPayload
      | none => cases parsed
      | bool _ => cases parsed
      | int _ => cases parsed
      | float _ => cases parsed
      | str _ => cases parsed
      | list _ => cases parsed

/-- Every event of a log that verifies says something with distinct keys. -/
theorem keyed_of_verifyLines
    {lineNo : Nat}
    {before events : List (Event F)}
    {lines : List Str}
    (keyed : ∀ event ∈ before, wellKeyed (.dict event.payload) = true)
    (accepted : verifyLines sha256 lineNo before lines = .ok events) :
    ∀ event ∈ events, wellKeyed (.dict event.payload) = true := by
  induction lines generalizing lineNo before with
  | nil =>
      cases accepted
      exact keyed
  | cons line lines inductionHypothesis =>
      unfold verifyLines at accepted
      cases verified : verifyLine sha256 lineNo before line with
      | error refusal =>
          rw [verified] at accepted
          cases accepted
      | ok next =>
          rw [verified] at accepted
          obtain ⟨event, -, parsed, -, rfl⟩ := verifyLine_eq_ok sha256 verified
          refine inductionHypothesis ?_ accepted
          intro another held
          rcases List.mem_append.mp held with earlier | isLast
          · exact keyed another earlier
          · rw [List.mem_singleton.mp isLast]
            exact keyed_of_parse parsed

omit [FloatOps F] in
/-- The digested fields in the order of their keys. -/
private theorem arrange_hashed (event : Event F) :
    arrange (.dict (hashed event.seq event.type event.payload event.previous)) =
      .dict [("payload".toList, .dict (arrangeDict event.payload)),
        ("previous".toList, .str event.previous),
        ("schema_version".toList, .str schemaVersion),
        ("seq".toList, .int event.seq), ("type".toList, .str event.type)] := by
  rw [arrange_dict]
  rfl

omit [FloatOps F] in
/-- The digested fields have distinct keys. -/
private theorem wellKeyed_hashed
    {event : Event F}
    (keyed : wellKeyed (.dict event.payload) = true) :
    wellKeyed (.dict (hashed event.seq event.type event.payload event.previous)) = true := by
  unfold wellKeyed at keyed ⊢
  have keys : ((hashed event.seq event.type event.payload event.previous).map
      (·.1)).Nodup := by
    show ["schema_version".toList, "seq".toList, "type".toList, "payload".toList,
      "previous".toList].Nodup
    decide
  rw [everywhere, decide_eq_true keys, Bool.true_and]
  simp only [hashed, everywhereEntries]
  simp only [everywhere, Bool.true_and, Bool.and_true]
  simpa only [everywhere] using keyed

/-- Two events whose digests agree are equal, unless their texts collide. -/
theorem same_of_hash_eq
    [ReadableFloats F]
    {before others : List (Event F)}
    {event other : Event F}
    (linked : Linked sha256 before event)
    (otherLinked : Linked sha256 others other)
    (keyed : wellKeyed (.dict event.payload) = true)
    (otherKeyed : wellKeyed (.dict other.payload) = true)
    (noCollision : sha256 (hashedText event) = sha256 (hashedText other) →
      hashedText event = hashedText other)
    (sameHash : event.hash = other.hash) : event.Same other := by
  obtain ⟨isFinite, isHash⟩ := eventHash_eq_ok sha256 linked.hash
  obtain ⟨otherFinite, otherIsHash⟩ := eventHash_eq_ok sha256 otherLinked.hash
  have digests : sha256 (hashedText event) = sha256 (hashedText other) := by
    rw [isHash, otherIsHash] at sameHash
    exact Fin.ext (Numeral.hexText_injective (sha256 _).isLt (sha256 _).isLt
      (by decide) sameHash)
  have texts := noCollision digests
  have isReadable :
      readable (.dict (hashed event.seq event.type event.payload event.previous)) = true := by
    rw [readable_eq, isFinite, wellKeyed_hashed keyed]
    rfl
  have otherReadable :
      readable (.dict (hashed other.seq other.type other.payload other.previous)) = true := by
    rw [readable_eq, otherFinite, wellKeyed_hashed otherKeyed]
    rfl
  have arranged := arrange_eq_of_dumps_eq isReadable otherReadable texts
  rw [arrange_hashed, arrange_hashed] at arranged
  simp only [Value.dict.injEq, List.cons.injEq, Prod.mk.injEq, Value.str.injEq,
    Value.int.injEq, true_and, and_true] at arranged
  obtain ⟨payload, previous, seq, type⟩ := arranged
  exact ⟨seq, type, payload, previous, sameHash⟩

/-- Two chains whose last events have the same digest are equal, unless texts
collide. -/
theorem same_of_head_eq
    [ReadableFloats F]
    {events others : List (Event F)}
    {event other : Event F}
    (grown : Grown (Linked sha256) (events ++ [event]))
    (othersGrown : Grown (Linked sha256) (others ++ [other]))
    (keyed : ∀ held ∈ events ++ [event], wellKeyed (.dict held.payload) = true)
    (othersKeyed : ∀ held ∈ others ++ [other], wellKeyed (.dict held.payload) = true)
    (noCollision : Set.InjOn sha256 {text |
      ∃ held ∈ (events ++ [event]) ++ (others ++ [other]), text = hashedText held})
    (sameHash : event.hash = other.hash) :
    List.Forall₂ Event.Same (events ++ [event]) (others ++ [other]) := by
  induction events using List.reverseRecOn generalizing event others other with
  | nil =>
      obtain ⟨-, linked⟩ := grown_snoc.mp grown
      obtain ⟨-, otherLinked⟩ := grown_snoc.mp othersGrown
      have same := same_of_hash_eq sha256 linked otherLinked (keyed event (by simp))
        (othersKeyed other (by simp))
        (noCollision ⟨event, by simp, rfl⟩ ⟨other, by simp, rfl⟩) sameHash
      have lengths := same.seq
      rw [linked.seq, otherLinked.seq] at lengths
      have empty : others = [] := List.length_eq_zero_iff.mp (by
        rw [List.length_nil] at lengths
        omega)
      subst empty
      exact List.Forall₂.cons same List.Forall₂.nil
  | append_singleton events last inductionHypothesis =>
      obtain ⟨earlier, linked⟩ := grown_snoc.mp grown
      obtain ⟨othersEarlier, otherLinked⟩ := grown_snoc.mp othersGrown
      have same := same_of_hash_eq sha256 linked otherLinked (keyed event (by simp))
        (othersKeyed other (by simp))
        (noCollision ⟨event, by simp, rfl⟩ ⟨other, by simp, rfl⟩) sameHash
      have lengths := same.seq
      rw [linked.seq, otherLinked.seq, List.length_append, List.length_singleton] at lengths
      rcases List.eq_nil_or_concat others with rfl | ⟨others, otherLast, rfl⟩
      · rw [List.length_nil] at lengths
        omega
      · rw [List.concat_eq_append] at *
        have predecessors : last.hash = otherLast.hash := by
          have named := same.previous
          rw [linked.previous, otherLinked.previous] at named
          simpa [expectedPrevious] using named
        have before := inductionHypothesis earlier othersEarlier
          (fun held present => keyed held (List.mem_append_left _ present))
          (fun held present => othersKeyed held (List.mem_append_left _ present))
          (noCollision.mono (by
            rintro text ⟨held, present, rfl⟩
            refine ⟨held, ?_, rfl⟩
            rcases List.mem_append.mp present with inEvents | inOthers
            · exact List.mem_append_left _ (List.mem_append_left _ inEvents)
            · exact List.mem_append_right _ (List.mem_append_left _ inOthers))) predecessors
        exact List.rel_append before (List.Forall₂.cons same List.Forall₂.nil)

/-- Two logs that verify and end with the same digest hold equal events. -/
def TamperEvident (F : Type) [FloatOps F] (sha256 : Str → Fin (2 ^ 256)) : Prop :=
  ∀ (log other : Str) (events others : List (Event F)) (event last : Event F),
    verify sha256 log = .ok (events ++ [event]) →
    verify sha256 other = .ok (others ++ [last]) →
    Set.InjOn sha256 {text |
      ∃ held ∈ (events ++ [event]) ++ (others ++ [last]), text = hashedText held} →
    event.hash = last.hash →
      List.Forall₂ Event.Same (events ++ [event]) (others ++ [last])

/-- In every interleaving of appends the log is intact, and the digest of its last
event determines a log that verifies. -/
theorem eventLog_integrity
    [ReadableFloats F]
    {P : Type}
    (schedule : List (P × Call F)) :
    Intact sha256 (World.run sha256 schedule) ∧ TamperEvident F sha256 := by
  refine ⟨intact_run sha256 schedule, ?_⟩
  intro log other events others event last verified otherVerified noCollision sameHash
  exact same_of_head_eq sha256 (grown_of_verify sha256 verified)
    (grown_of_verify sha256 otherVerified)
    (keyed_of_verifyLines sha256 (fun _ held => absurd held List.not_mem_nil) verified)
    (keyed_of_verifyLines sha256 (fun _ held => absurd held List.not_mem_nil) otherVerified)
    noCollision sameHash

/-- Two processes that append one event each. -/
theorem eventLog_integrity_two :
    Intact (fun text => Fin.ofNat (2 ^ 256) text.length)
        (World.run (F := Empty) (fun text => Fin.ofNat (2 ^ 256) text.length)
          [(true, ⟨"frozen".toList, [("n".toList, .int 1)], rfl⟩),
            (false, ⟨"dispatched".toList, [], rfl⟩)]) ∧
      TamperEvident Empty (fun text => Fin.ofNat (2 ^ 256) text.length) :=
  eventLog_integrity _ _

end Digest

end EventLog
end ChatPlatform
