/-
What a send puts on the wire.

# The loop

A step of the loop of `esp_websocket_client_send_with_exact_opcode`
offers the transport what fits the transmit buffer and goes on behind
what the transport took. Whatever the transport answers, the bytes it
took are a prefix of the data, and all of it if the send succeeds
(`sendLoop_takes`).

# The frames

Where the transport takes every frame whole or fails, the frames of a
send are a cut of its data (Fragments.lean): the far end puts the message
together if the send succeeds, and one that fails leaves it without one
(`message_put_together`).
-/
import WledDial.Model.EspWebsocketClient
import WledDial.Lib.Fragments

namespace WledDial

open Fragments Transition

-- ============================================================== opcodes

/-- The kind of message a frame opens: its opcode without the flags, and
none for a continuation. -/
def opensOf (opcode : UInt8) : Option UInt8 :=
  if opcode &&& 0x0f = 0 then none else some (opcode &&& 0x0f)

/-- The frame on the wire. -/
def Write.frame (w : Write) : Fragment UInt8 UInt8 :=
  ⟨opensOf w.opcode, w.opcode &&& finBit ≠ 0, w.payload⟩

/-- Taking FIN off an opcode keeps what it opens. -/
theorem opensOf_clear (opcode : UInt8) :
    opensOf (opcode &&& ~~~finBit) = opensOf opcode := by
  have hkind : opcode &&& ~~~finBit &&& 0x0f = opcode &&& 0x0f := by
    rw [UInt8.and_assoc]
    rfl
  unfold opensOf
  rw [hkind]

theorem fin_clear (opcode : UInt8) : opcode &&& ~~~finBit &&& finBit = 0 := by
  rw [UInt8.and_assoc]
  exact UInt8.and_zero

/-- So does putting it on. -/
theorem opensOf_set (opcode : UInt8) :
    opensOf (opcode ||| finBit) = opensOf opcode := by
  have hkind : (opcode ||| finBit) &&& 0x0f = opcode &&& 0x0f := by
    apply (UInt8.toBitVec_inj.mp BitVec.and_or_distrib_right).trans
    exact UInt8.or_zero
  unfold opensOf
  rw [hkind]

theorem fin_set (opcode : UInt8) : (opcode ||| finBit) &&& finBit ≠ 0 := by
  have hfin : (opcode ||| finBit) &&& finBit = finBit := by
    refine UInt8.toBitVec_inj.mp (BitVec.eq_of_getElem_eq fun i hi => ?_)
    simp +contextual
  rw [hfin]
  decide

-- ========================================================= the loop

namespace EspWebsocketClient

section

variable {n : Nat} {fin : Bool} {data : Bytes} {opcode : UInt8} {widx : Nat}
  {answers : List Int} {wlen : Int}

/-- The frame the loop writes next, and its answer. -/
def nextWrite (n : Nat) (fin : Bool) (data : Bytes) (opcode : UInt8)
    (widx : Nat) (wlen : Int) : Write :=
  ⟨frameOpcode n (data.length - widx) fin opcode,
    (data.drop widx).take (needWrite n (data.length - widx)), wlen⟩

theorem sendLoop_stop (h : ¬ (widx < data.length ∨ opcode ≠ 0)) :
    sendLoop n fin data opcode widx answers = ⟨widx, [], false⟩ := by
  unfold sendLoop
  rw [if_neg h]

theorem sendLoop_nil (h : widx < data.length ∨ opcode ≠ 0) :
    sendLoop n fin data opcode widx []
      = ⟨-1, [nextWrite n fin data opcode widx (-1)], true⟩ := by
  unfold sendLoop
  rw [if_pos h]
  rfl

/-- The bytes a frame offers. -/
theorem length_payload (n : Nat) (data : Bytes) (widx : Nat) :
    ((data.drop widx).take (needWrite n (data.length - widx))).length
      = needWrite n (data.length - widx) := by
  rw [List.length_take, List.length_drop]
  unfold needWrite
  split <;> omega

theorem failed_nextWrite :
    (nextWrite n fin data opcode widx wlen).Failed
      ↔ wlen < 0 ∨ (wlen = 0 ∧ needWrite n (data.length - widx) ≠ 0) := by
  have hlen := length_payload n data widx
  unfold Write.Failed nextWrite
  simp only [ne_eq, ← List.length_eq_zero_iff, hlen]

theorem sendLoop_failed (h : widx < data.length ∨ opcode ≠ 0)
    (hfail : (nextWrite n fin data opcode widx wlen).Failed) :
    sendLoop n fin data opcode widx (wlen :: answers)
      = ⟨wlen, [nextWrite n fin data opcode widx wlen], true⟩ := by
  rw [failed_nextWrite] at hfail
  unfold sendLoop
  simp only [if_pos h, if_pos hfail]
  rfl

theorem sendLoop_cons (h : widx < data.length ∨ opcode ≠ 0)
    (hfail : ¬ (nextWrite n fin data opcode widx wlen).Failed) :
    sendLoop n fin data opcode widx (wlen :: answers)
      = { sendLoop n fin data 0 (widx + wlen.toNat) answers with
          writes := nextWrite n fin data opcode widx wlen
            :: (sendLoop n fin data 0 (widx + wlen.toNat)
              answers).writes } := by
  rw [failed_nextWrite] at hfail
  conv_lhs => unfold sendLoop
  simp only [if_pos h, if_neg hfail]
  rfl

/-- What a run of the loop from `widx` on makes of the data, whatever it
is answered: the bytes taken are a prefix of what is left, and all of it
if the send succeeds; and there are no more frames than bytes left, and
one. -/
structure Takes (data : Bytes) (widx : Nat) (r : SendResult) : Prop where
  part : (r.writes.map Write.taken).flatten <+: data.drop widx
  whole : r.failed = false → (r.writes.map Write.taken).flatten = data.drop widx
    ∧ r.ret = data.length
  ret_failed : r.failed = true → r.ret ≤ 0 ∧ r.ret ≠ data.length
  writes_le : r.writes.length ≤ data.length - widx + 1

theorem takes_stop (hwidx : widx ≤ data.length)
    (hstop : ¬ (widx < data.length ∨ opcode ≠ 0)) :
    Takes data widx ⟨widx, [], false⟩ := by
  have hend : widx = data.length := by omega
  refine ⟨List.nil_prefix, fun _ => ⟨?_, ?_⟩, nofun, Nat.zero_le _⟩
  · rw [hend, List.drop_length]
    rfl
  · rw [hend]

theorem takes_failed (hfail : (nextWrite n fin data opcode widx wlen).Failed) :
    Takes data widx ⟨wlen, [nextWrite n fin data opcode widx wlen], true⟩ := by
  have hret : wlen ≤ 0 ∧ wlen ≠ data.length := by
    rcases hfail with h | ⟨h, hne⟩
    · have hneg : wlen < 0 := h
      omega
    · have hzero : wlen = 0 := h
      have hdata : data ≠ [] := by
        intro hnil
        apply hne
        rw [hnil]
        simp [nextWrite]
      have hpos := List.length_pos_iff.mpr hdata
      omega
  have hle := hret.1
  refine ⟨?_, nofun, fun _ => hret, by simp⟩
  simp [Write.taken, nextWrite, Int.toNat_of_nonpos hle]

theorem takes_empty (hend : widx = data.length) :
    Takes data widx
      ⟨widx, [nextWrite n fin data opcode widx 0], false⟩ := by
  subst hend
  have htaken : (nextWrite n fin data opcode data.length 0).taken = [] :=
    List.take_zero
  exact ⟨by simp [htaken], fun _ => ⟨by simp [htaken], rfl⟩, nofun, by simp⟩

/-- A frame that is taken in part or whole, and the run behind it. -/
theorem takes_cons {r : SendResult} {w : Write} (hwidx : widx < data.length)
    (hpart : w.payload <+: data.drop widx) (htaken : 0 < w.wlen)
    (hfits : w.wlen ≤ w.payload.length)
    (hr : Takes data (widx + w.wlen.toNat) r) :
    Takes data widx { r with writes := w :: r.writes } := by
  have hlen : w.taken.length = w.wlen.toNat := by
    rw [Write.taken, List.length_take]
    omega
  have hhead : w.taken ++ data.drop (widx + w.wlen.toNat) = data.drop widx := by
    obtain ⟨rest, hrest⟩ := hpart
    have htake : w.taken = (data.drop widx).take w.wlen.toNat := by
      rw [← hrest, Write.taken, List.take_append_of_le_length (by omega)]
    rw [htake, ← List.drop_drop]
    exact List.take_append_drop ..
  refine ⟨?_, fun hok => ⟨?_, (hr.whole hok).2⟩, hr.ret_failed, ?_⟩
  · rw [List.map_cons, List.flatten_cons, ← hhead]
    exact (List.prefix_append_right_inj _).mpr hr.part
  · rw [List.map_cons, List.flatten_cons, (hr.whole hok).1, hhead]
  · have hle := hr.writes_le
    rw [List.length_cons]
    omega

/-- The loop takes the data in order and ends, whatever the transport
answers. -/
theorem sendLoop_takes (hn : 0 < n) (answers : List Int)
    (hwidx : widx ≤ data.length)
    (hfits : ∀ w ∈ (sendLoop n fin data opcode widx answers).writes,
      w.wlen ≤ w.payload.length) :
    Takes data widx (sendLoop n fin data opcode widx answers) := by
  induction answers generalizing opcode widx with
  | nil =>
      by_cases hgo : widx < data.length ∨ opcode ≠ 0
      · rw [sendLoop_nil hgo]
        exact takes_failed (Or.inl (show (-1 : Int) < 0 by decide))
      · rw [sendLoop_stop hgo]
        exact takes_stop hwidx hgo
  | cons wlen answers ih =>
      by_cases hgo : widx < data.length ∨ opcode ≠ 0
      · by_cases hfail : (nextWrite n fin data opcode widx wlen).Failed
        · rw [sendLoop_failed hgo hfail]
          exact takes_failed hfail
        · rw [sendLoop_cons hgo hfail] at hfits ⊢
          have hfit : wlen
              ≤ (nextWrite n fin data opcode widx wlen).payload.length :=
            hfits _ (List.mem_cons_self ..)
          have hneed := length_payload n data widx
          rw [failed_nextWrite] at hfail
          have hle : wlen ≤ needWrite n (data.length - widx) := hneed ▸ hfit
          by_cases hmore : widx < data.length
          · have hpos : 0 < wlen := by
              unfold needWrite at hfail
              split at hfail <;> omega
            have hle' : widx + wlen.toNat ≤ data.length := by
              unfold needWrite at hle
              split at hle <;> omega
            exact takes_cons hmore (List.take_prefix ..) hpos hfit
              (ih hle' fun w hw => hfits w (List.mem_cons_of_mem _ hw))
          · -- an opcode without data: one empty frame
            have hend : widx = data.length := by omega
            have hwlen : wlen = 0 := by
              rw [hend, Nat.sub_self] at hle
              have hzero : needWrite n 0 = 0 := if_neg (Nat.not_lt_zero _)
              omega
            have hrest :
                ¬ (widx + wlen.toNat < data.length ∨ (0 : UInt8) ≠ 0) :=
              not_or.mpr ⟨by omega, not_not.mpr rfl⟩
            rw [sendLoop_stop hrest, hwlen]
            exact takes_empty hend
      · rw [sendLoop_stop hgo]
        exact takes_stop hwidx hgo

/-- What the loop returns tells whether it has failed. -/
theorem sendLoop_ret (n : Nat) (fin : Bool) (data : Bytes) (opcode : UInt8)
    (widx : Nat) (answers : List Int) :
    let r := sendLoop n fin data opcode widx answers
    (r.failed = true → r.ret ≤ 0)
      ∧ (r.failed = false → (data.length : Int) ≤ r.ret) := by
  induction answers generalizing opcode widx with
  | nil =>
      by_cases hgo : widx < data.length ∨ opcode ≠ 0
      · rw [sendLoop_nil hgo]
        exact ⟨fun _ => show (-1 : Int) ≤ 0 by decide, nofun⟩
      · rw [sendLoop_stop hgo]
        exact ⟨nofun, fun _ => by simp only; omega⟩
  | cons wlen answers ih =>
      by_cases hgo : widx < data.length ∨ opcode ≠ 0
      · by_cases hfail : (nextWrite n fin data opcode widx wlen).Failed
        · rw [sendLoop_failed hgo hfail]
          refine ⟨fun _ => ?_, nofun⟩
          rcases failed_nextWrite.mp hfail with h | ⟨h, -⟩
          · exact Int.le_of_lt h
          · exact Int.le_of_eq h
        · rw [sendLoop_cons hgo hfail]
          exact ih 0 (widx + wlen.toNat)
      · rw [sendLoop_stop hgo]
        exact ⟨nofun, fun _ => by simp only; omega⟩

-- ========================================================== the frames

/-- A frame that leaves something behind. -/
theorem frame_more (hmore : n < data.length - widx) :
    (nextWrite n fin data opcode widx wlen).frame
      = ⟨opensOf opcode, false, (data.drop widx).take n⟩ := by
  unfold Write.frame nextWrite frameOpcode needWrite
  simp only [if_pos hmore, opensOf_clear, fin_clear]
  rfl

/-- The frame that takes the rest. -/
theorem frame_last (hop : opcode &&& finBit ≠ 0 → fin = true)
    (hlast : ¬ n < data.length - widx) :
    (nextWrite n fin data opcode widx wlen).frame
      = ⟨opensOf opcode, fin, data.drop widx⟩ := by
  have hrest : (data.drop widx).take (data.length - widx) = data.drop widx :=
    List.take_of_length_le (Nat.le_of_eq List.length_drop)
  unfold Write.frame nextWrite frameOpcode needWrite
  simp only [if_neg hlast, hrest]
  cases fin with
  | true =>
      rw [if_pos rfl, opensOf_set, decide_eq_true (fin_set opcode)]
  | false =>
      have hno : ¬ opcode &&& finBit ≠ 0 := fun h => Bool.noConfusion (hop h)
      rw [if_neg Bool.false_ne_true, decide_eq_false hno]

/-- What a run of the loop makes of `xs` where the transport takes frames
whole or fails: a cut of it if the send succeeds, and nothing that ends
if it fails. -/
structure Cuts (n : Nat) (fin : Bool) (opens : Option UInt8) (xs : Bytes)
    (r : SendResult) : Prop where
  whole : r.failed = false → (∀ w ∈ r.writes, w.Whole)
    ∧ Cut n fin opens xs (r.writes.map Write.frame)
  broken : r.failed = true → ∃ ws bad, r.writes = ws ++ [bad] ∧ bad.Failed
    ∧ (∀ w ∈ ws, w.Whole)
    ∧ (ws = [] ∨ ∃ ys, Cut n false opens ys (ws.map Write.frame))

theorem cuts_failed {opens : Option UInt8} {xs : Bytes} {w : Write} {ret : Int}
    (hfail : w.Failed) : Cuts n fin opens xs ⟨ret, [w], true⟩ :=
  ⟨nofun, fun _ => ⟨[], w, rfl, hfail, by simp, Or.inl rfl⟩⟩

/-- A frame that leaves something behind, and the run behind it. -/
theorem cuts_cons {opens : Option UInt8} {xs ys : Bytes} {w : Write}
    {r : SendResult} (hwhole : w.Whole) (hfit : xs.length ≤ n)
    (hw : w.frame = ⟨opens, false, xs⟩) (hr : Cuts n fin none ys r) :
    Cuts n fin opens (xs ++ ys) { r with writes := w :: r.writes } := by
  constructor
  · intro hok
    obtain ⟨hall, hcut⟩ := hr.whole hok
    refine ⟨List.forall_mem_cons.mpr ⟨hwhole, hall⟩, ?_⟩
    show Cut n fin opens (xs ++ ys) (w.frame :: r.writes.map Write.frame)
    rw [hw]
    exact .more hfit hcut
  · intro hfail
    obtain ⟨ws, bad, hwrites, hbad, hall, hws⟩ := hr.broken hfail
    refine ⟨w :: ws, bad, ?_, hbad,
      List.forall_mem_cons.mpr ⟨hwhole, hall⟩, Or.inr ?_⟩
    · show w :: r.writes = _
      rw [hwrites]
      rfl
    · rw [List.map_cons, hw]
      rcases hws with rfl | ⟨zs, hcut⟩
      · exact ⟨xs, .last hfit⟩
      · exact ⟨xs ++ zs, .more hfit hcut⟩

/-- A send that has something to write cuts its data. -/
theorem sendLoop_cuts (answers : List Int)
    (hop : opcode &&& finBit ≠ 0 → fin = true)
    (hgo : widx < data.length ∨ opcode ≠ 0)
    (hclean : ∀ w ∈ (sendLoop n fin data opcode widx answers).writes,
      w.Whole ∨ w.Failed) :
    Cuts n fin (opensOf opcode) (data.drop widx)
      (sendLoop n fin data opcode widx answers) := by
  induction answers generalizing opcode widx with
  | nil =>
      rw [sendLoop_nil hgo]
      exact cuts_failed (Or.inl (show (-1 : Int) < 0 by decide))
  | cons wlen answers ih =>
      by_cases hfail : (nextWrite n fin data opcode widx wlen).Failed
      · rw [sendLoop_failed hgo hfail]
        exact cuts_failed hfail
      · rw [sendLoop_cons hgo hfail] at hclean ⊢
        have htaken : (nextWrite n fin data opcode widx wlen).Whole :=
          (hclean _ (List.mem_cons_self ..)).resolve_right hfail
        have hwhole : wlen = needWrite n (data.length - widx) := by
          rw [← length_payload n data widx]
          exact htaken
        by_cases hmore : n < data.length - widx
        · -- the frame is full, and the loop goes on behind it
          rw [needWrite, if_pos hmore] at hwhole
          have hnext : widx + wlen.toNat = widx + n := by omega
          rw [hnext] at hclean ⊢
          rw [← List.take_append_drop n (data.drop widx), List.drop_drop]
          apply cuts_cons htaken (List.length_take_le ..) (frame_more hmore)
          exact ih (fun h => absurd rfl h)
            (Or.inl (by omega)) fun w hw => hclean w (List.mem_cons_of_mem _ hw)
        · -- the frame takes the rest, and the loop ends
          rw [needWrite, if_neg hmore] at hwhole
          have hstop : ¬ (widx + wlen.toNat < data.length ∨ (0 : UInt8) ≠ 0) :=
            not_or.mpr ⟨by omega, not_not.mpr rfl⟩
          rw [sendLoop_stop hstop]
          refine ⟨fun _ => ⟨?_, ?_⟩, nofun⟩
          · intro w hw
            rw [List.mem_singleton.mp hw]
            exact htaken
          · show Cut n fin _ _ [(nextWrite n fin data opcode widx wlen).frame]
            rw [frame_last hop hmore]
            exact .last (by rw [List.length_drop]; omega)

end

-- ===================================================== whole messages

/-- The loop of a send of a whole message. -/
def messageLoop (c : EspWebsocketClient) (m : Message) (answers : List Int) :
    SendResult :=
  sendLoop c.config.bufferSize true m.data (m.kind.opcode.code ||| finBit) 0
    answers

theorem sendMessage_eq (clock : Clock) (c : EspWebsocketClient) (m : Message)
    (answers : List Int) :
    c.sendMessage clock m answers =
      let r := c.messageLoop m answers
      let c := c.logs (r.writes.map Output.write)
      (r.ret, if r.failed then c.error.abortConnection clock .tcpTransport
        else c) := by
  have hfin : decide ((m.kind.opcode.code ||| finBit) &&& finBit ≠ 0) = true :=
    decide_eq_true (fin_set _)
  unfold sendMessage sendLocked
  rw [hfin]
  unfold messageLoop
  generalize sendLoop _ _ _ _ _ _ = r
  simp only
  cases r.failed <;> rfl

/-- It is what a send of either kind does on a connected client. -/
theorem send_connected (clock : Clock) {c : EspWebsocketClient}
    (hconn : c.isConnected = true) (data : Bytes) (answers : List Int) :
    c.sendText clock data answers = c.sendMessage clock ⟨.text, data⟩ answers
      ∧ c.sendBin clock data answers
        = c.sendMessage clock ⟨.binary, data⟩ answers := by
  unfold sendText sendBin sendWithOpcode sendWithExactOpcode
  rw [hconn]
  exact ⟨rfl, rfl⟩

theorem opensOf_message (kind : MessageKind) :
    opensOf (kind.opcode.code ||| finBit) = some kind.opcode.code := by
  cases kind <;> decide

theorem messageLoop_cuts {c : EspWebsocketClient} {m : Message}
    {answers : List Int}
    (hclean : ∀ w ∈ (c.messageLoop m answers).writes, w.Whole ∨ w.Failed) :
    Cuts c.config.bufferSize true (some m.kind.opcode.code) m.data
      (c.messageLoop m answers) := by
  have hgo : 0 < m.data.length ∨ m.kind.opcode.code ||| finBit ≠ 0 := by
    apply Or.inr
    cases m.kind <;> decide
  have hcuts := sendLoop_cuts answers (fun _ => rfl) hgo hclean
  rw [opensOf_message, List.drop_zero] at hcuts
  exact hcuts

/-- The frames of a send that the transport took whole. -/
def wholeFrames (writes : List Write) : List (Fragment UInt8 UInt8) :=
  (writes.filter fun w => decide w.Whole).map Write.frame

/-- A frame that fails is not taken whole. -/
theorem not_whole_of_failed {w : Write} (h : w.Failed) : ¬ w.Whole := by
  intro hwhole
  unfold Write.Whole at hwhole
  rcases h with h | ⟨h, hne⟩
  · omega
  · exact hne (List.length_eq_zero_iff.mp (by omega))

theorem wholeFrames_of_whole {writes : List Write}
    (h : ∀ w ∈ writes, w.Whole) :
    wholeFrames writes = writes.map Write.frame := by
  unfold wholeFrames
  rw [List.filter_eq_self.mpr fun w hw => decide_eq_true (h w hw)]

theorem wholeFrames_of_broken {ws : List Write} {bad : Write}
    (hws : ∀ w ∈ ws, w.Whole) (hbad : bad.Failed) :
    wholeFrames (ws ++ [bad]) = ws.map Write.frame := by
  have hno : decide bad.Whole = false :=
    decide_eq_false (not_whole_of_failed hbad)
  unfold wholeFrames
  rw [List.filter_append, List.filter_eq_self.mpr fun w hw =>
    decide_eq_true (hws w hw), List.filter_cons_of_neg (by rw [hno]; decide),
    List.filter_nil, List.append_nil]

theorem fits_of_clean {w : Write} (h : w.Whole ∨ w.Failed) :
    w.wlen ≤ w.payload.length := by
  rcases h with h | h
  · exact Int.le_of_eq h
  · rcases h with h | ⟨h, -⟩ <;> omega

/-- After a send of a whole message over a transport that takes frames
whole or fails, the far end has the message if the send succeeds, and no
further message if it fails; a send that succeeds returns the length of
the data, and one that fails gives the connection up. -/
theorem message_put_together (clock : Clock) (c : EspWebsocketClient)
    (m : Message) (answers : List Int) (done : List (UInt8 × Bytes))
    (hclean : ∀ w ∈ (c.messageLoop m answers).writes, w.Whole ∨ w.Failed) :
    let r := c.messageLoop m answers
    let sent := c.logs (r.writes.map Output.write)
    (r.failed = false →
      c.sendMessage clock m answers = ((m.data.length : Int), sent)
      ∧ receiver.run ⟨done, none⟩ (wholeFrames r.writes)
          = some ⟨done ++ [(m.kind.opcode.code, m.data)], none⟩)
    ∧ (r.failed = true →
      (c.sendMessage clock m answers).1 ≤ 0
      ∧ (c.sendMessage clock m answers).1 ≠ m.data.length
      ∧ (c.sendMessage clock m answers).2
          = sent.error.abortConnection clock .tcpTransport
      ∧ ∃ opened, receiver.run ⟨done, none⟩ (wholeFrames r.writes)
          = some ⟨done, opened⟩) := by
  have hcuts := messageLoop_cuts hclean
  have htakes := sendLoop_takes c.config.buffer_pos answers
    (Nat.zero_le m.data.length) fun w hw => fits_of_clean (hclean w hw)
  constructor
  · intro hok
    obtain ⟨hall, hcut⟩ := hcuts.whole hok
    constructor
    · have hret : (c.messageLoop m answers).ret = m.data.length :=
        (htakes.whole hok).2
      rw [sendMessage_eq]
      simp only [hok, hret]
      rfl
    · rw [wholeFrames_of_whole hall]
      exact run_message hcut done
  · intro hfail
    refine ⟨?_, ?_, ?_, ?_⟩
    · rw [sendMessage_eq]
      exact (htakes.ret_failed hfail).1
    · rw [sendMessage_eq]
      exact (htakes.ret_failed hfail).2
    · rw [sendMessage_eq]
      simp only [hfail, if_true]
    · obtain ⟨ws, bad, hwrites, hbad, hall, hws⟩ := hcuts.broken hfail
      rw [hwrites, wholeFrames_of_broken hall hbad]
      rcases hws with rfl | ⟨ys, hcut⟩
      · exact ⟨none, rfl⟩
      · exact ⟨some (m.kind.opcode.code, ys), run_cut hcut done⟩

end EspWebsocketClient

end WledDial
