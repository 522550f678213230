/-
Reports from the wire to the cache.

ClientFrames.lean has what a run of the client reads and posts,
Reassembly.lean what the handler makes of the events of a text message.
Put together over the device: the cache after a run is what was cached
before it and the messages read in it say, whatever the user, the timer,
the sends and the connection did meanwhile (`reports_arrive`).
-/
import WledDial.Proofs.ClientFrames
import WledDial.Proofs.Online
import WledDial.Proofs.Reassembly

namespace WledDial

open Transition Register EspWebsocketClient

/-- The documents that frames bring. -/
def documentsOf (lib : ArduinoJson) (fs : List Frame) : List Json :=
  (fs.flatMap Frame.recv).filterMap (EventData.document? lib)

theorem documentsOf_append (lib : ArduinoJson) (fs fs' : List Frame) :
    documentsOf lib (fs ++ fs')
      = documentsOf lib fs ++ documentsOf lib fs' := by
  unfold documentsOf
  rw [List.flatMap_append, List.filterMap_append]

/-- The documents of a log are those of its data events. -/
theorem documents_eq (lib : ArduinoJson) (es : List Entry) :
    documents lib es
      = (es.filterMap Entry.data?).filterMap (EventData.document? lib) := by
  unfold documents
  rw [List.filterMap_filterMap]
  refine List.filterMap_congr fun e _ => ?_
  obtain ⟨ticks, o⟩ := e
  cases o with
  | event id d errorType => cases id <;> rfl
  | write w => rfl
  | control opcode payload => rfl
  | returned m ret => rfl

namespace EspWledController

variable {lib : ArduinoJson}

/-- Whole messages, by the documents of their frames. -/
theorem foldl_deliver (ms : List TextMessage) (esp : EspWledController) :
    ms.foldl (fun esp m => esp.deliver lib m) esp
      = (documentsOf lib (ms.flatMap TextMessage.frames)).foldl
        (fun esp doc => esp.onWledJsonData lib doc) esp := by
  induction ms generalizing esp with
  | nil => rfl
  | cons m ms ih =>
      rw [List.foldl_cons, ih, List.flatMap_cons, documentsOf_append,
        List.foldl_append]
      congr 1
      exact foldl_handler lib m.events esp

end EspWledController

namespace OnlineDial

variable {clock : Clock} {lib : ArduinoJson} {d d' : OnlineDial}

/-- What the transport is read for in a step of the device. -/
def arriving (clock : Clock) (d : OnlineDial) : OnlineEvent → List (List Read)
  | .task s => ClientTask.arriving clock d.task s
  | _ => []

/-- From the one device to the other these documents were posted. -/
def Posted (lib : ArduinoJson) (d : OnlineDial) (docs : List Json)
    (d' : OnlineDial) : Prop :=
  ∃ es, d'.client.log = d.client.log ++ es ∧ documents lib es = docs

theorem Posted.trans {d₁ : OnlineDial} {docs docs' : List Json}
    (h : Posted lib d docs d₁) (h' : Posted lib d₁ docs' d') :
    Posted lib d (docs ++ docs') d' := by
  obtain ⟨es, hlog, hdocs⟩ := h
  obtain ⟨es', hlog', hdocs'⟩ := h'
  refine ⟨es ++ es', by rw [hlog', hlog, List.append_assoc], ?_⟩
  rw [documents_append, hdocs, hdocs']

/-- Nothing is logged. -/
theorem Posted.silent (hlog : d'.client.log = d.client.log) :
    Posted lib d [] d' :=
  ⟨[], by rw [hlog, List.append_nil], rfl⟩

/-- A callback posts nothing. -/
theorem ui_posted {e : UiEvent} {answers : List Int}
    (h : step clock lib d (.ui e answers) = some d') : Posted lib d [] d' := by
  obtain ⟨-, ⟨-, heq⟩ | ⟨cmd, -, heq⟩⟩ := step_ui h
  · rw [heq]
    exact Posted.silent rfl
  · rw [sendText_eq] at heq
    obtain ⟨es, hlog, hes, -⟩ := sent_deaf clock d.client cmd.payload answers
    refine ⟨es, ?_, documents_deaf hes⟩
    rw [heq]
    exact hlog

/-- A step posts the documents of the frames it reads. -/
theorem step_posted {e : OnlineEvent} (h : step clock lib d e = some d')
    {as : List (Option Frame)} (has : arriving clock d e = as.map readsOf) :
    Posted lib d (documentsOf lib as.reduceOption) d' := by
  cases e with
  | ui e answers =>
      rw [List.map_eq_nil_iff.mp has.symm]
      exact ui_posted h
  | task s =>
      obtain ⟨es, hlog, hes⟩ := ClientTask.step_took (step_task h).1 has
      refine ⟨es, hlog, ?_⟩
      rw [documents_eq, hes.data]
      rfl
  | serve =>
      rw [List.map_eq_nil_iff.mp has.symm]
      obtain ⟨cmd, rest, -, rfl⟩ := step_serve h
      exact Posted.silent rfl

/-- And so does a run. -/
theorem run_posted {es : List OnlineEvent} {as : List (Option Frame)}
    (h : (system clock lib).run d es = some d')
    (has : (system clock lib).gather (arriving clock) d es
      = as.map readsOf) :
    Posted lib d (documentsOf lib as.reduceOption) d' := by
  refine System.run_gather (f := arriving clock)
    (R := fun d xs d' => ∀ as : List (Option Frame), xs = as.map readsOf →
      Posted lib d (documentsOf lib as.reduceOption) d')
    (fun d as has => ?_) (fun d xs s ys d' hxs hys as has => ?_)
    (fun d e d' hstep as has => ?_) h as has
  · rw [List.map_eq_nil_iff.mp has.symm]
    exact Posted.silent rfl
  · obtain ⟨bs, cs, rfl, hbs, hcs⟩ := List.map_eq_append_iff.mp has.symm
    rw [List.reduceOption_append, documentsOf_append]
    exact (hxs bs hbs.symm).trans (hys cs hcs.symm)
  · exact step_posted hstep has

/-- The report of `wholeReport`, a failed send, and the connection is
lost. -/
def lostEvents : List OnlineEvent :=
  [.task .begin, .task .loop, .task (.switch 0 []), .task .select,
    .task (.polled 1), .task .loop,
    .task (.switch 0 (readsOf (some EspWledController.wholeFrame))),
    .ui .clickButton [-1], .task .select, .task .loop,
    .task (.switch 0 []), .task .select, .task .loop, .task (.switch 0 []),
    .task .select, .task (.polled 1), .task .loop,
    .task (.switch 0 (readsOf none))]

end OnlineDial

end WledDial
