/-
A text message against the events it arrives as. The component posts one
event for each read of each frame (WebsocketClient.lean), and the handler
parses every event with opcode 1 as a document of its own: the reads of
the text frame act one after the other, control frames and continuation
frames not at all. Nothing looks at the length, the offset and the FIN
that come with an event.

The cache after a message is therefore the last reading among the reads
of its text frame (`cached_deliver`).

# Whatever the library makes of a cut text

What is left of a text that was cut is for the library to say, so a
message is sure to be handled as if it came whole exactly when it is
posted whole, as one event (`reassembly_iff`): of any other message the
last event is not the text.

# With one library

A given library may read a message right although it was cut, as when the
state stands before the cut and nothing behind it reads as another
(`ReadsAgree`).
-/
import WledDial.Proofs.Reports

namespace WledDial

open Register

/-- The document that a data event brings. -/
def EventData.document? (lib : ArduinoJson) (e : EventData) : Option Json :=
  if e.opCode = 0x1 then some (lib.deserializeJson e.data).2 else none

namespace EspWledController

variable (lib : ArduinoJson)

/-- The controller after the data events of a message. -/
def deliver (m : TextMessage) (c : EspWledController) : EspWledController :=
  m.events.foldl (fun c e => c.websocketEventHandler lib .data e) c

/-- What one payload would be read as. -/
def readPayload (payload : Bytes) : Option (Bool × Int16) :=
  reading lib (lib.deserializeJson payload).2

/-- After each message of a sequence the cache is what one call of
`on_wled_json_data` on the whole message makes of the cache before it. -/
def Reassembles : EspWledController → List TextMessage → Prop
  | _, [] => True
  | c, m :: ms =>
      (c.deliver lib m).cached
          = (c.onWledJsonData lib (lib.deserializeJson m.text).2).cached
        ∧ Reassembles (c.deliver lib m) ms

/-- The last reading among the reads of the text frame is the reading of
the whole message. -/
def ReadsAgree (m : TextMessage) : Prop :=
  lastWrite (m.first.reads.map (readPayload lib)) = readPayload lib m.text

-- =========================================================== one message

/-- Events act through the documents they bring, one after the other. -/
theorem foldl_handler (events : List EventData) (c : EspWledController) :
    events.foldl (fun c e => c.websocketEventHandler lib .data e) c
      = (events.filterMap (EventData.document? lib)).foldl
          (fun c doc => c.onWledJsonData lib doc) c := by
  induction events generalizing c with
  | nil => rfl
  | cons e es ih =>
      rw [List.foldl_cons, ih]
      by_cases hop : e.opCode = 0x1
      · have hdoc : e.document? lib = some (lib.deserializeJson e.data).2 :=
          if_pos hop
        rw [List.filterMap_cons_some hdoc, List.foldl_cons]
        congr 1
        exact if_pos hop
      · have hdoc : e.document? lib = none := if_neg hop
        rw [List.filterMap_cons_none hdoc]
        congr 1
        exact if_neg hop

/-- Only the events with opcode 1 bring one. -/
theorem filterMap_document? (events : List EventData) :
    events.filterMap (EventData.document? lib)
      = ((events.filter fun e => e.opCode = 0x1).map EventData.data).map
          fun payload => (lib.deserializeJson payload).2 := by
  unfold EventData.document?
  induction events with
  | nil => rfl
  | cons e es ih =>
      by_cases hop : e.opCode = 0x1
      · simp [hop, ih]
      · simp [hop, ih]

/-- The cache after a message: the last reading among the reads of its
text frame, or what was cached before. -/
theorem cached_deliver (m : TextMessage) (c : EspWledController) :
    (c.deliver lib m).cached
      = (lastWrite (m.first.reads.map (readPayload lib))).getD c.cached := by
  unfold deliver
  rw [foldl_handler, cached_foldl_onWledJsonData, filterMap_document?,
    ← m.textEvents_data, List.map_map]
  rfl

/-- With one library, a message is handled as if it came whole, from every
cache, exactly when its reads agree with it. -/
theorem deliver_iff (m : TextMessage) :
    (∀ c : EspWledController, (c.deliver lib m).cached
        = (c.onWledJsonData lib (lib.deserializeJson m.text).2).cached)
      ↔ ReadsAgree lib m := by
  constructor
  · intro h
    refine getD_inj fun r => ?_
    have hr := h ⟨r.1, r.2, ⟨false, []⟩⟩
    rw [cached_deliver, cached_onWledJsonData] at hr
    exact hr
  · intro h c
    rw [cached_deliver, cached_onWledJsonData, h]
    rfl

/-- A message that is posted whole is read as it is. -/
theorem readsAgree_of_postedWhole {m : TextMessage} (h : m.PostedWhole) :
    ReadsAgree lib m := by
  unfold ReadsAgree
  rw [m.postedWhole_iff.mp h]
  rfl

theorem reassembles_of_agree {ms : List TextMessage}
    (hms : ∀ m ∈ ms, ReadsAgree lib m) (c : EspWledController) :
    Reassembles lib c ms := by
  induction ms generalizing c with
  | nil => trivial
  | cons m ms ih =>
      exact ⟨(deliver_iff lib m).mpr (hms m (List.mem_cons_self ..)) c,
        ih (fun m' hm' => hms m' (List.mem_cons_of_mem _ hm')) _⟩

/-- After a sequence of messages whose reads agree with them, the cache
is the last reading of the whole messages. -/
theorem cached_foldl_deliver {ms : List TextMessage}
    (hms : ∀ m ∈ ms, ReadsAgree lib m) (c : EspWledController) :
    (ms.foldl (fun c m => c.deliver lib m) c).cached
      = (lastWrite (ms.map fun m => readPayload lib m.text)).getD
          c.cached := by
  induction ms generalizing c with
  | nil => rfl
  | cons m ms ih =>
      rw [List.foldl_cons, ih fun m' hm' => hms m' (List.mem_cons_of_mem _ hm'),
        cached_deliver, hms m (List.mem_cons_self ..), List.map_cons,
        lastWrite_cons]
      cases lastWrite (ms.map fun m => readPayload lib m.text) <;> rfl

-- =========================================================== any library

/-- A library that reads one text as on, and whatever else it is given as
off. -/
def tells (text : Bytes) : ArduinoJson :=
  { ArduinoJson.reference with
    deserializeJson := fun payload =>
      (.ok, fullReport (decide (payload = text)) ⟨0, by omega⟩) }

theorem readPayload_tells (text payload : Bytes) :
    readPayload (tells text) payload = some (decide (payload = text), 0) :=
  (stateReport_fullReport _ _).reading _

/-- Where that library has a message handled as if it came whole, the
message is posted whole: its last event carries the text. -/
theorem postedWhole_of_tells {m : TextMessage} {c : EspWledController}
    (h : (c.deliver (tells m.text) m).cached
      = (c.onWledJsonData (tells m.text)
          ((tells m.text).deserializeJson m.text).2).cached) :
    m.PostedWhole := by
  obtain ⟨reads, last, hreads⟩ :=
    (List.eq_nil_or_concat' m.first.reads).resolve_left m.first.reads_ne
  have hwhole : reading (tells m.text)
      ((tells m.text).deserializeJson m.text).2 = some (true, 0) := by
    have hself := readPayload_tells m.text m.text
    rw [decide_eq_true rfl] at hself
    exact hself
  rw [cached_deliver, cached_onWledJsonData, hwhole, hreads, List.map_append,
    List.map_singleton, readPayload_tells, lastWrite_concat_some] at h
  have hlast : last = m.text := of_decide_eq_true (congrArg Prod.fst h)
  rw [hlast] at hreads
  exact m.postedWhole_iff.mpr (TextMessage.reads_eq_of_last hreads)

theorem postedWhole_of_reassembles {ms : List TextMessage} {m : TextMessage}
    (hm : m ∈ ms) {c : EspWledController}
    (h : Reassembles (tells m.text) c ms) : m.PostedWhole := by
  induction ms generalizing c with
  | nil => cases hm
  | cons m' ms ih =>
      rcases List.mem_cons.mp hm with rfl | hrest
      · exact postedWhole_of_tells h.1
      · exact ih hrest h.2

/-- A sequence of messages, however each is cut, is handled as if each
came whole, with every library that parses the texts and from every cache,
exactly when each is posted whole: one event with opcode 1, that carries
all of the text. With one library it is also handled so if each message
reads the same cut as it does whole. -/
theorem reassembly_iff (ms : List TextMessage) :
    ((∀ (lib : ArduinoJson) (c : EspWledController),
        (∀ m ∈ ms, (lib.deserializeJson m.text).1 = .ok) →
        Reassembles lib c ms)
      ↔ ∀ m ∈ ms, m.PostedWhole)
    ∧ ∀ (lib : ArduinoJson) (c : EspWledController),
      (∀ m ∈ ms, ReadsAgree lib m) → Reassembles lib c ms := by
  refine ⟨⟨fun h m hm => ?_, fun h lib c _ => ?_⟩,
    fun lib c hms => reassembles_of_agree lib hms c⟩
  · exact postedWhole_of_reassembles hm (h (tells m.text) init fun _ _ => rfl)
  · exact reassembles_of_agree lib
      (fun m hm => readsAgree_of_postedWhole lib (h m hm)) c

-- ============================================================== messages

/-- The frame of `splitReport`, read through the buffer. -/
def splitFrame : Frame where
  opCode := .text
  fin := true
  reads := [List.replicate 996 32
      ++ ascii "\x7b\"state\":\x7b\"on\":true,\"bri\":12",
    ascii "8\x7d\x7d"]
  reads_ne := List.cons_ne_nil _ _
  reads_fit := by decide +kernel
  reads_full := Or.inr (by decide +kernel)

/-- The frame of `wholeReport`. -/
def wholeFrame : Frame where
  opCode := .text
  fin := true
  reads := [ascii "\x7b\"state\":\x7b\"on\":true,\"bri\":128\x7d\x7d"]
  reads_ne := List.cons_ne_nil _ _
  reads_fit := by decide +kernel
  reads_full := Or.inl rfl

/-- A report of 1027 bytes in one frame, padded by a server that indents,
so that the buffer ends inside the brightness: `…"bri":12` and
`8}}`. -/
def splitReport : TextMessage where
  frames := [splitFrame]
  first := splitFrame
  conts := []
  frames_eq := rfl
  first_text := rfl
  conts_cont := by simp
  fins := rfl

/-- A short report in one frame and one read. -/
def wholeReport : TextMessage where
  frames := [wholeFrame]
  first := wholeFrame
  conts := []
  frames_eq := rfl
  first_text := rfl
  conts_cont := by simp
  fins := rfl

/-- The frame of `cutReport`: the buffer ends behind the state. -/
def cutFrame : Frame where
  opCode := .text
  fin := true
  reads := [ascii "\x7b\"state\":\x7b\"on\":true,\"bri\":128\x7d,\"info\":"
      ++ List.replicate 986 32,
    ascii "\x7b\x7d\x7d"]
  reads_ne := List.cons_ne_nil _ _
  reads_fit := by decide +kernel
  reads_full := Or.inr (by decide +kernel)

/-- A report of 1027 bytes in one frame and two reads, the state in the
first. -/
def cutReport : TextMessage where
  frames := [cutFrame]
  first := cutFrame
  conts := []
  frames_eq := rfl
  first_text := rfl
  conts_cont := by simp
  fins := rfl

/-- A frame without a payload. -/
def emptyFrame (opCode : Opcode) : Frame where
  opCode := opCode
  fin := true
  reads := [[]]
  reads_ne := List.cons_ne_nil _ _
  reads_fit := by simp
  reads_full := Or.inl rfl

/-- The short report, fragmented: all of it in the text frame, a ping, and
an empty frame to end it. -/
def fragmentedReport : TextMessage where
  frames := [{ wholeFrame with fin := false }, emptyFrame .ping,
    emptyFrame .cont]
  first := { wholeFrame with fin := false }
  conts := [emptyFrame .cont]
  frames_eq := rfl
  first_text := rfl
  conts_cont := by simp [emptyFrame]
  fins := rfl

/-- Reports that are handled as if whole: one cut behind its state, by
this library; one fragmented but posted whole, by any. -/
theorem cut_report_reassembles :
    Reassembles .reference init [cutReport, wholeReport]
      ∧ (∀ (lib : ArduinoJson) (c : EspWledController),
        (∀ m ∈ [fragmentedReport], (lib.deserializeJson m.text).1 = .ok) →
        Reassembles lib c [fragmentedReport])
      ∧ ¬ ∀ (lib : ArduinoJson) (c : EspWledController),
        (∀ m ∈ [cutReport], (lib.deserializeJson m.text).1 = .ok) →
        Reassembles lib c [cutReport] := by
  refine ⟨(reassembly_iff _).2 .reference init ?_,
    (reassembly_iff [fragmentedReport]).1.mpr ?_, ?_⟩
  · simp only [List.forall_mem_cons]
    refine ⟨?_, ?_, by simp⟩
    · unfold ReadsAgree
      decide +kernel
    · unfold ReadsAgree
      decide +kernel
  · simp only [List.forall_mem_cons]
    exact ⟨by unfold TextMessage.PostedWhole; decide +kernel, by simp⟩
  · intro h
    have hwhole := (reassembly_iff [cutReport]).1.mp h cutReport
      (List.mem_cons_self ..)
    unfold TextMessage.PostedWhole at hwhole
    exact absurd hwhole (by decide +kernel)

/-- The split report is a well-formed text that says 128; what is cached
of it is 12. -/
theorem split_report_reads_cut_number :
    ¬ ∀ (lib : ArduinoJson) (m : TextMessage) (c : EspWledController),
      (lib.deserializeJson m.text).1 = .ok →
      (c.deliver lib m).cached
        = (c.onWledJsonData lib (lib.deserializeJson m.text).2).cached := by
  intro h
  exact absurd (h .reference splitReport init (by decide +kernel))
    (by decide +kernel)

end EspWledController

end WledDial
