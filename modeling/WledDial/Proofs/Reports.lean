/-
What the cache holds after documents have been handled: the handler on
one payload (`websocketEventHandler`), and `on_wled_json_data` over a
sequence of documents.

# One payload

The handler never looks at the outcome of `deserializeJson`, so a
payload acts through the document that was built before the error. It
changes nothing, whatever is cached, exactly when that document has no
state object (`handler_keeps_cache_iff`).

# A sequence of documents

A report overwrites both fields or neither (`cached_onWledJsonData`), so
the cache follows the last document with a state object, whatever that
object contains; the law one would want follows the last writer of each
field on its own (`lastWriters`). The two agree exactly when the last
state object has each field, or lacks one whose last written value is
the default an absent member reads as (`fields_follow_iff`).
-/
import WledDial.Model.Dial
import WledDial.Lib.LastWrite
import WledDial.Lib.Deserialize

namespace WledDial

open Register

namespace EspWledController

variable (lib : ArduinoJson)

-- ========================================================= one payload

/-- The event of a text frame whose payload is read at once. -/
def wholeTextEvent (payload : Bytes) : EventData :=
  ⟨payload, true, Opcode.text.code, payload.length, 0⟩

/-- Handling a document keeps every controller exactly when the document
has no state object: any such object changes some cache. -/
theorem onWledJsonData_keeps_iff (doc : Json) :
    (∀ c : EspWledController, c.onWledJsonData lib doc = c)
      ↔ (doc.get (ascii "state")).isObject = false := by
  constructor
  · intro h
    rw [← Bool.not_eq_true]
    intro hobj
    obtain ⟨r, hr⟩ : ∃ r, reading lib doc = some r := by
      unfold reading
      rw [if_pos hobj]
      exact ⟨_, rfl⟩
    -- a cache with the other flag
    have hother := h ⟨!r.1, r.2, ⟨false, []⟩⟩
    rw [onWledJsonData_of_reading lib hr] at hother
    have hflag : r.1 = !r.1 := congrArg isWledOn hother
    exact (Bool.not_eq_self r.1).mp hflag.symm
  · intro hobj c
    unfold onWledJsonData
    rw [if_neg (by rw [hobj]; decide)]

/-- A payload handled whole, with an error in it or not, leaves every
controller as it was exactly when the document built from it has no state
object. -/
theorem handler_keeps_cache_iff (payload : Bytes) :
    (∀ c : EspWledController,
        c.websocketEventHandler lib .data (wholeTextEvent payload) = c)
      ↔ ((lib.deserializeJson payload).2.get (ascii "state")).isObject
        = false :=
  onWledJsonData_keeps_iff lib (lib.deserializeJson payload).2

/-- A payload that is cut behind a member of another name is an error, and
changes nothing. -/
theorem misnamed_report_keeps_cache :
    let payload := ascii "\x7b\"stat\":\x7b\"on\":false\x7d,x"
    (ArduinoJson.reference.deserializeJson payload).1 ≠ .ok
      ∧ ∀ c : EspWledController,
        c.websocketEventHandler .reference .data (wholeTextEvent payload) = c :=
  ⟨by decide +kernel,
    (handler_keeps_cache_iff .reference _).mpr (by decide +kernel)⟩

/-- An error does not keep the cache: a report cut after two digits of
its brightness is cached as 25. -/
theorem truncated_report_changes_cache :
    ¬ ∀ (lib : ArduinoJson) (payload : Bytes) (c : EspWledController),
      (lib.deserializeJson payload).1 ≠ .ok →
      c.websocketEventHandler lib .data (wholeTextEvent payload) = c := by
  intro h
  have hcut := h .reference
    (ascii "\x7b\"state\":\x7b\"on\":true,\"bri\":25") init (by decide +kernel)
  exact absurd (congrArg EspWledController.cached hcut) (by decide +kernel)

-- ============================================================ sequences

/-- The two values that a state object is cached as. -/
def readState (state : Json) : Bool × Int16 :=
  (lib.asBool (state.get (ascii "on")),
    (lib.asSignedInt (state.get (ascii "bri"))).toInt16)

/-- Handling documents in order leaves the last reading. -/
theorem cached_foldl_onWledJsonData (docs : List Json)
    (c : EspWledController) :
    (docs.foldl (fun c doc => c.onWledJsonData lib doc) c).cached
      = (lastWrite (docs.map (reading lib))).getD c.cached := by
  rw [← foldl_getD]
  induction docs generalizing c with
  | nil => rfl
  | cons doc docs ih =>
      rw [List.foldl_cons, ih, cached_onWledJsonData, List.map_cons,
        List.foldl_cons]

end EspWledController

-- ================================================== the law of two fields

/-- A document as a WLED server writes one: its state, if there is one,
is an object, with a Boolean flag and a brightness in 0 to 255 where it
has them. -/
structure WellTyped (doc : Json) : Prop where
  state : ∀ st, doc.find? (ascii "state") = some st → st.isObject = true
  on : ∀ st, doc.find? (ascii "state") = some st →
    ∀ v, st.find? (ascii "on") = some v → ∃ b, v = .bool b
  bri : ∀ st, doc.find? (ascii "state") = some st →
    ∀ v, st.find? (ascii "bri") = some v → ∃ l : Level, v = .int (l : Nat)

/-- The flag a state object writes. -/
def onField (state : Json) : Option Bool :=
  (state.find? (ascii "on")).bind fun
    | .bool b => some b
    | _ => none

/-- The brightness a state object writes. -/
def briField (state : Json) : Option Int16 :=
  (state.find? (ascii "bri")).bind fun
    | .num n _ => some (Int16.ofInt n)
    | _ => none

/-- Each field's last writer among the documents, or its initial
value. -/
def lastWriters (initial : Bool × Int16) (docs : List Json) : Bool × Int16 :=
  ((lastWrite (docs.map fun d =>
      (d.find? (ascii "state")).bind onField)).getD initial.1,
    (lastWrite (docs.map fun d =>
      (d.find? (ascii "state")).bind briField)).getD initial.2)

namespace EspWledController

variable (lib : ArduinoJson)

/-- A well-typed document is read through its state member. -/
theorem reading_wellTyped {doc : Json} (h : WellTyped doc) :
    reading lib doc = (doc.find? (ascii "state")).map (readState lib) := by
  unfold reading
  cases hst : doc.find? (ascii "state") with
  | none =>
      rw [Json.get_of_find?_none hst]
      rfl
  | some st =>
      rw [Json.get_of_find? hst, if_pos (h.state st hst)]
      rfl

/-- What a state object without a flag, or with one, reads as. -/
theorem readState_on {doc st : Json} (h : WellTyped doc)
    (hst : doc.find? (ascii "state") = some st) :
    (readState lib st).1 = (onField st).getD false
      ∧ (onField st = none ↔ st.find? (ascii "on") = none) := by
  unfold readState onField
  cases hon : st.find? (ascii "on") with
  | none =>
      rw [Json.get_of_find?_none hon]
      exact ⟨lib.asBool_null, by simp⟩
  | some v =>
      obtain ⟨b, rfl⟩ := h.on st hst v hon
      rw [Json.get_of_find? hon]
      exact ⟨lib.asBool_bool b, by simp⟩

/-- What a state object without a brightness, or with one, reads as. -/
theorem readState_bri {doc st : Json} (h : WellTyped doc)
    (hst : doc.find? (ascii "state") = some st) :
    (readState lib st).2 = (briField st).getD 0
      ∧ (briField st = none ↔ st.find? (ascii "bri") = none) := by
  unfold readState briField
  cases hbri : st.find? (ascii "bri") with
  | none =>
      rw [Json.get_of_find?_none hbri]
      exact ⟨congrArg Int32.toInt16 lib.asSignedInt_null, by simp⟩
  | some v =>
      obtain ⟨l, rfl⟩ := h.bri st hst v hbri
      have hlt : (l : Nat) < 256 := l.isLt
      rw [Json.get_of_find? hbri]
      refine ⟨?_, by simp⟩
      show (lib.asSignedInt _).toInt16 = _
      rw [lib.asSignedInt_int _ ⟨by omega, by omega⟩, Int32.toInt16_ofInt]
      rfl

/-- One field of the last state object against the last writer of that
field: they agree unless the object lacks the field and the last value
written is not the default. -/
theorem field_follows_iff {α : Type} (field : Json → Option α)
    (initial absent : α) {docs : List Json} {st : Json}
    (hlast : lastWrite (docs.map fun d => d.find? (ascii "state")) = some st) :
    (field st).getD absent
        = (lastWrite (docs.map fun d =>
            (d.find? (ascii "state")).bind field)).getD initial
      ↔ (field st = none →
          (lastWrite (docs.map fun d =>
            (d.find? (ascii "state")).bind field)).getD initial = absent) := by
  cases hf : field st with
  | none =>
      constructor
      · exact fun h _ => h.symm
      · exact fun h => (h rfl).symm
  | some v =>
      have hw := lastWrite_bind_some hlast hf
      rw [List.map_map] at hw
      have hw' : lastWrite (docs.map fun d =>
          (d.find? (ascii "state")).bind field) = some v := hw
      rw [hw']
      constructor
      · intro _ h
        cases h
      · exact fun _ => rfl

/-- Documents without a state write neither field. -/
theorem lastWriters_of_no_state {docs : List Json}
    (hlast : lastWrite (docs.map fun d => d.find? (ascii "state")) = none)
    (initial : Bool × Int16) : lastWriters initial docs = initial := by
  have hnone : ∀ {α : Type} (field : Json → Option α),
      lastWrite (docs.map fun d => (d.find? (ascii "state")).bind field)
        = none := by
    intro α field
    have h := lastWrite_bind_none (g := field) hlast
    rw [List.map_map] at h
    exact h
  unfold lastWriters
  rw [hnone, hnone]
  rfl

/-- After any sequence of well-typed documents the cache holds each
field's last writer exactly when the last state object among them has
both fields, or lacks a field whose last writer wrote what an absent
member reads as: off, or 0. -/
theorem fields_follow_iff (c : EspWledController) (docs : List Json)
    (hdocs : ∀ d ∈ docs, WellTyped d) :
    (docs.foldl (fun c doc => c.onWledJsonData lib doc) c).cached
        = lastWriters c.cached docs
      ↔ ∀ st, lastWrite (docs.map fun d => d.find? (ascii "state")) = some st →
          (st.find? (ascii "on") = none →
            (lastWriters c.cached docs).1 = false)
          ∧ (st.find? (ascii "bri") = none →
            (lastWriters c.cached docs).2 = 0) := by
  have hreadings : docs.map (reading lib)
      = (docs.map fun d => d.find? (ascii "state")).map
          (Option.map (readState lib)) := by
    rw [List.map_map]
    exact List.map_congr_left fun d hd => reading_wellTyped lib (hdocs d hd)
  rw [cached_foldl_onWledJsonData, hreadings, lastWrite_map]
  cases hlast : lastWrite (docs.map fun d => d.find? (ascii "state")) with
  | none =>
      rw [lastWriters_of_no_state hlast]
      constructor
      · intro _ st h
        cases h
      · exact fun _ => rfl
  | some st =>
      obtain ⟨d, hd, hst⟩ : ∃ d ∈ docs, d.find? (ascii "state") = some st := by
        obtain ⟨d, hd, h⟩ := List.mem_map.mp (mem_of_lastWrite hlast)
        exact ⟨d, hd, h⟩
      obtain ⟨hon, hon'⟩ := readState_on lib (hdocs d hd) hst
      obtain ⟨hbri, hbri'⟩ := readState_bri lib (hdocs d hd) hst
      have hfst := field_follows_iff onField c.cached.1 false hlast
      have hsnd := field_follows_iff briField c.cached.2 0 hlast
      rw [hon'] at hfst
      rw [hbri'] at hsnd
      show readState lib st = lastWriters c.cached docs ↔ _
      rw [Prod.ext_iff, hon, hbri]
      constructor
      · rintro ⟨h1, h2⟩ st' hst'
        cases hst'
        exact ⟨hfst.mp h1, hsnd.mp h2⟩
      · intro h
        obtain ⟨h1, h2⟩ := h st rfl
        exact ⟨hfst.mpr h1, hsnd.mpr h2⟩

/-- A document is well-typed if its state object is. -/
theorem wellTyped_stateDocument {members : List (Bytes × Json)}
    (hon : ∀ v, (Json.obj members).find? (ascii "on") = some v →
      ∃ b, v = .bool b)
    (hbri : ∀ v, (Json.obj members).find? (ascii "bri") = some v →
      ∃ l : Level, v = .int (l : Nat)) : WellTyped (stateDocument members) := by
  have hstate : ∀ st, (stateDocument members).find? (ascii "state") = some st →
      st = .obj members := by
    intro st h
    rw [stateDocument_find?] at h
    exact (Option.some.inj h).symm
  refine ⟨fun st h => ?_, fun st h v hv => ?_, fun st h v hv => ?_⟩
  · rw [hstate st h]
    rfl
  · rw [hstate st h] at hv
    exact hon v hv
  · rw [hstate st h] at hv
    exact hbri v hv

theorem wellTyped_onDocument (on : Bool) :
    WellTyped (stateDocument [(ascii "on", .bool on)]) := by
  refine wellTyped_stateDocument (fun v hv => ?_) (fun v hv => ?_)
  · rw [Json.find?_cons_self] at hv
    exact ⟨on, (Option.some.inj hv).symm⟩
  · rw [Json.find?_cons_ne (by decide), Json.find?_nil] at hv
    cases hv

theorem wellTyped_briDocument (bri : Level) :
    WellTyped (stateDocument [(ascii "bri", .int (bri : Nat))]) := by
  refine wellTyped_stateDocument (fun v hv => ?_) (fun v hv => ?_)
  · rw [Json.find?_cons_ne (by decide), Json.find?_nil] at hv
    cases hv
  · rw [Json.find?_cons_self] at hv
    exact ⟨bri, (Option.some.inj hv).symm⟩

/-- Partial reports over a cache of on at 200: off, then 77, which is
cached as off at 77. -/
theorem partial_reports_follow :
    ([stateDocument [(ascii "on", .bool false)],
        stateDocument [(ascii "bri", .int 77)]].foldl
          (fun c doc => c.onWledJsonData .reference doc)
          (⟨true, 200, ⟨true, []⟩⟩ : EspWledController)).cached
      = lastWriters (true, 200) [stateDocument [(ascii "on", .bool false)],
          stateDocument [(ascii "bri", .int 77)]] := by
  refine (fields_follow_iff .reference ⟨true, 200, ⟨true, []⟩⟩ _ ?_).mpr ?_
  · simp only [List.forall_mem_cons]
    exact ⟨wellTyped_onDocument false,
      wellTyped_briDocument (lvArcSetValue 77), by simp⟩
  · intro st hst
    have hlast : lastWrite ([stateDocument [(ascii "on", .bool false)],
        stateDocument [(ascii "bri", .int 77)]].map
          fun d => d.find? (ascii "state"))
        = some (.obj [(ascii "bri", .int 77)]) := by simp
    cases hst.symm.trans hlast
    refine ⟨fun _ => by decide +kernel, fun h => ?_⟩
    rw [Json.find?_cons_self] at h
    cases h

/-- A report of the flag alone over a brightness of 200: the cache reads
0. -/
theorem flag_report_resets_brightness :
    ¬ ∀ (lib : ArduinoJson) (c : EspWledController) (docs : List Json),
      (∀ d ∈ docs, WellTyped d) →
      (docs.foldl (fun c doc => c.onWledJsonData lib doc) c).cached
        = lastWriters c.cached docs := by
  intro h
  have hdoc := h .reference ⟨false, 200, ⟨false, []⟩⟩
    [stateDocument [(ascii "on", .bool true)]] (by
      intro d hd
      rw [List.mem_singleton] at hd
      rw [hd]
      exact wellTyped_onDocument true)
  exact absurd hdoc (by decide +kernel)

end EspWledController

end WledDial
