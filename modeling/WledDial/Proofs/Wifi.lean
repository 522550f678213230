/-
Whether the station is ever left with nothing to bring it back online.

# The token

Reconnecting is a single token that is passed around: the connected
station holds it, loses it to the event its lost link posts, the handler
turns that event into an attempt, and the attempt ends in the station or
in the next event. `tokens` counts every place it can be, and every step
conserves it but one (`tokens_step`): a call of `esp_wifi_connect` that
is refused. Nothing watches its result and nothing else ever calls it,
so the token is gone for good (`stranded_for_good`).

Without a stored network there is no token at all
(`unstored_never_connects`).

There is never more than one, so the calls the driver would have to
refuse, on a station that is connected or connecting already, are not
made (`connect_only_when_idle`).
-/
import WledDial.Model.Wifi

namespace WledDial

open Transition

namespace Station

-- ============================================================ the token

/-- The connection, the attempts in flight and the disconnected events
that wait. -/
def tokens (s : Station) : Nat :=
  s.connected.toNat + s.attempts + s.events.count .staDisconnected

theorem tokens_mk (connected : Bool) (attempts : Nat)
    (events : List WifiEvent) :
    tokens ⟨connected, attempts, events⟩
      = connected.toNat + attempts + events.count .staDisconnected := rfl

/-- A station is online or has something pending if there is a token. -/
theorem onlineOrPending_iff (s : Station) :
    s.OnlineOrPending ↔ 0 < s.tokens := by
  unfold OnlineOrPending tokens
  rw [← List.count_pos_iff]
  cases s.connected with
  | true =>
      rw [Bool.toNat_true]
      constructor
      · intro _
        omega
      · exact fun _ => Or.inl rfl
  | false =>
      rw [Bool.toNat_false]
      constructor
      · rintro (h | h | h)
        · cases h
        · omega
        · omega
      · intro h
        omega

/-- An accepted call makes a token, a refused one does not. -/
theorem tokens_espWifiConnect (connect : EspErr) (s : Station) :
    (espWifiConnect connect s).2.tokens
      = s.tokens + if connect = .ok then 1 else 0 := by
  unfold espWifiConnect
  by_cases hok : connect = .ok
  · rw [if_pos hok, if_pos hok, tokens_mk, tokens]
    omega
  · rw [if_neg hok, if_neg hok]
    rfl

/-- A disconnected event posted adds one to those that wait. -/
theorem count_post_disconnected (events : List WifiEvent) :
    (events ++ [WifiEvent.staDisconnected]).count .staDisconnected
      = events.count .staDisconnected + 1 := by
  rw [List.count_append, List.count_singleton_self]

/-- Any other event posted adds none. -/
theorem count_post_other (events : List WifiEvent) (id : Int32) :
    (events ++ [WifiEvent.other id]).count .staDisconnected
      = events.count .staDisconnected := by
  have hnone : [WifiEvent.other id].count .staDisconnected = 0 :=
    List.count_eq_zero_of_not_mem (by simp)
  rw [List.count_append, hnone, Nat.add_zero]

/-- Every step conserves the token, but a refused `esp_wifi_connect`. -/
theorem tokens_step {s s' : Station} {e : WifiStep} (hs : s.tokens ≤ 1)
    (h : s.step e = some s') :
    s'.tokens + (if s.Accepts e then 0 else 1) = s.tokens := by
  cases e with
  | post id =>
      cases h
      rw [if_pos (show s.Accepts (.post id) from trivial), tokens_mk,
        count_post_other]
      rfl
  | attemptSucceeds =>
      rw [if_pos (show s.Accepts .attemptSucceeds from trivial)]
      simp only [step] at h
      split at h
      · cases h
      · next attempts hattempts =>
        cases h
        -- the attempt in flight is the one token: the station is offline
        unfold tokens at hs
        rw [tokens_mk, tokens, Bool.toNat_true]
        omega
  | attemptFails =>
      rw [if_pos (show s.Accepts .attemptFails from trivial)]
      simp only [step] at h
      split at h
      · cases h
      · next attempts hattempts =>
        cases h
        rw [tokens_mk, tokens, count_post_disconnected]
        omega
  | linkLost =>
      rw [if_pos (show s.Accepts .linkLost from trivial)]
      simp only [step] at h
      split at h
      · next hup =>
        cases h
        rw [tokens_mk, tokens, count_post_disconnected, hup,
          Bool.toNat_true, Bool.toNat_false]
        omega
      · cases h
  | handle connect =>
      simp only [step] at h
      split at h
      · cases h
      · next e rest hevents =>
        cases h
        have hold : s.tokens = s.connected.toNat + s.attempts
            + (e :: rest).count .staDisconnected := by
          rw [tokens, hevents]
        cases e with
        | other id =>
            have haccepts : s.Accepts (.handle connect) := by
              intro hhead
              rw [hevents] at hhead
              cases hhead
            rw [if_pos haccepts, hold, List.count_cons_of_ne (by simp)]
            rfl
        | staDisconnected =>
            have haccepts : s.Accepts (.handle connect) ↔ connect = .ok := by
              show (s.events.head? = _ → _) ↔ _
              rw [hevents]
              exact ⟨fun h => h rfl, fun h _ => h⟩
            show (espWifiConnect connect { s with events := rest }).2.tokens
              + _ = _
            rw [tokens_espWifiConnect, tokens_mk, hold, List.count_cons_self]
            by_cases hok : connect = .ok
            · rw [if_pos hok, if_pos (haccepts.mpr hok)]
              omega
            · rw [if_neg hok, if_neg (mt haccepts.mp hok)]
              omega

-- ============================================================== runs

/-- What a step does to a station with at most one token: it keeps it or,
if its call is refused, loses it. -/
theorem onlineOrPending_step {s s' : Station} {e : WifiStep}
    (hs : s.tokens ≤ 1) (h : s.step e = some s') :
    s'.tokens ≤ 1
      ∧ (s'.OnlineOrPending ↔ s.OnlineOrPending ∧ s.Accepts e) := by
  have htokens := tokens_step hs h
  rw [onlineOrPending_iff, onlineOrPending_iff]
  by_cases haccepts : s.Accepts e
  · rw [if_pos haccepts] at htokens
    refine ⟨by omega, ?_⟩
    constructor
    · intro _
      exact ⟨by omega, haccepts⟩
    · rintro ⟨hpos, -⟩
      omega
  · rw [if_neg haccepts] at htokens
    refine ⟨by omega, ?_⟩
    constructor
    · intro _
      omega
    · rintro ⟨-, h⟩
      exact absurd h haccepts

theorem onlineOrPending_run {s s' : Station} {es : List WifiStep}
    (hs : s.tokens ≤ 1) (hrun : system.run s es = some s') :
    s'.OnlineOrPending ↔ s.OnlineOrPending ∧ system.Along Accepts s es :=
  System.run_iff_along (I := fun s => s.tokens ≤ 1)
    (fun _ _ _ hs h => onlineOrPending_step hs h) hrun hs

/-- A station that is neither online nor has anything pending stays that
way, whatever happens. -/
theorem stranded_for_good {s s' : Station} {es : List WifiStep}
    (hs : ¬ s.OnlineOrPending) (hrun : system.run s es = some s') :
    ¬ s'.OnlineOrPending := by
  have htokens : s.tokens ≤ 1 := by
    rw [onlineOrPending_iff] at hs
    omega
  rw [onlineOrPending_run htokens hrun]
  exact fun h => hs h.1

/-- What `initialize_wifi_stack` leaves with a network stored: one token,
if its `esp_wifi_connect` was accepted. -/
theorem tokens_initializeWifiStack {esp : EspIdf} {connect : EspErr}
    {s : Station} (hstored : StoredNetwork esp)
    (h : initializeWifiStack esp connect = .ok s) :
    s.tokens = if connect = .ok then 1 else 0 := by
  rw [initializeWifiStack_stored hstored h, tokens_espWifiConnect]
  exact Nat.zero_add _

/-- There is never more than one token. -/
theorem tokens_le_one {s : Station}
    (hs : system.ReachableBy (fun _ => True) s) : s.tokens ≤ 1 := by
  refine System.reachableBy_induction (P := fun s => s.tokens ≤ 1) ?_ ?_ hs
  · rintro s ⟨esp, connect, hstored, h⟩
    rw [tokens_initializeWifiStack hstored h]
    split <;> omega
  · intro s e s' hs _ h
    exact (onlineOrPending_step hs h).1

/-- Whenever the handler calls `esp_wifi_connect`, the station is neither
connected nor connecting. -/
theorem connect_only_when_idle {s : Station}
    (hs : system.ReachableBy (fun _ => True) s)
    (hhead : s.events.head? = some .staDisconnected) :
    s.connected = false ∧ s.attempts = 0 := by
  have htokens := tokens_le_one hs
  have hcount : 0 < s.events.count .staDisconnected :=
    List.count_pos_iff.mpr (List.mem_of_mem_head? hhead)
  unfold tokens at htokens
  cases hup : s.connected with
  | true =>
      rw [hup, Bool.toNat_true] at htokens
      omega
  | false => exact ⟨rfl, by omega⟩

-- ======================================================= never stranded

/-- With a network stored, after `initialize_wifi_stack` and any sequence
of connect outcomes, link losses and events handled, the station is
online or has something pending exactly when every call of
`esp_wifi_connect` was accepted: the one in `initialize_wifi_stack` and
each one the handler made. -/
theorem online_or_pending_iff {esp : EspIdf} {connect : EspErr}
    {s₀ s : Station} {es : List WifiStep} (hstored : StoredNetwork esp)
    (hboot : initializeWifiStack esp connect = .ok s₀)
    (hrun : system.run s₀ es = some s) :
    s.OnlineOrPending ↔ connect = .ok ∧ system.Along Accepts s₀ es := by
  have htokens := tokens_initializeWifiStack hstored hboot
  have hbooted : s₀.OnlineOrPending ↔ connect = .ok := by
    rw [onlineOrPending_iff, htokens]
    by_cases hok : connect = .ok
    · rw [if_pos hok]
      exact ⟨fun _ => hok, fun _ => Nat.one_pos⟩
    · rw [if_neg hok]
      constructor
      · intro h
        omega
      · exact fun h => absurd h hok
  have hle : s₀.tokens ≤ 1 := by
    rw [htokens]
    split <;> omega
  rw [onlineOrPending_run hle hrun, hbooted]

/-- A driver that grants every call, with a network stored. -/
def storedHome : EspIdf where
  nvsFlashInit _ := .ok
  nvsFlashErase := .ok
  espNetifInit := .ok
  espEventLoopCreateDefault := .ok
  espNetifCreateDefaultWifiSta := true
  espNetifSetHostname _ := .ok
  espEventHandlerRegister := .ok
  espWifiInit := .ok
  espWifiSetMode := .ok
  espWifiStart := .ok
  espWifiGetConfig := some ⟨[104, 111, 109, 101], [115, 101, 99, 114, 101, 116]⟩

theorem storedNetwork_storedHome : StoredNetwork storedHome :=
  ⟨_, rfl, by decide, by decide⟩

/-- A failed attempt, a second one, and a lost link, with every call
accepted: the event of the lost link waits. -/
theorem retried_station_pending :
    OnlineOrPending ⟨false, 0, [.other 4, .staDisconnected]⟩ :=
  (@online_or_pending_iff storedHome .ok ⟨false, 1, []⟩
    ⟨false, 0, [.other 4, .staDisconnected]⟩
    [.attemptFails, .handle .ok, .attemptSucceeds, .post 4, .linkLost]
    storedNetwork_storedHome rfl (by decide)).mpr ⟨rfl, by decide⟩

/-- The first attempt fails, and the handler's call is refused: nothing is
left to try again. -/
theorem refused_connect_strands :
    ¬ ∀ (esp : EspIdf) (connect : EspErr) (s₀ s : Station)
        (es : List WifiStep), StoredNetwork esp →
      initializeWifiStack esp connect = .ok s₀ →
      system.run s₀ es = some s → s.OnlineOrPending := by
  intro h
  have hpending := h storedHome .ok ⟨false, 1, []⟩ ⟨false, 0, []⟩
    [.attemptFails, .handle (.other (-1))] storedNetwork_storedHome rfl rfl
  exact absurd hpending (by decide)

/-- A second attempt, made by a station that is offline. -/
theorem second_connect_when_idle :
    (⟨false, 0, [.staDisconnected]⟩ : Station).connected = false
      ∧ (⟨false, 0, [.staDisconnected]⟩ : Station).attempts = 0 :=
  connect_only_when_idle
    ⟨⟨false, 1, []⟩, [.attemptFails],
      ⟨storedHome, .ok, storedNetwork_storedHome, rfl⟩, by simp, by decide⟩ rfl

-- ===================================================== no stored network

/-- Without a network that has an SSID and a password, what
`initialize_wifi_stack` leaves is a station that was started. -/
theorem initializeWifiStack_unstored {esp : EspIdf} {connect : EspErr}
    {s : Station} (hstored : ¬ StoredNetwork esp)
    (h : initializeWifiStack esp connect = .ok s) : s = .started := by
  have hno : ¬ ((esp.espWifiGetConfig.getD StaConfig.zero).ssid.headD 0 ≠ 0
      ∧ (esp.espWifiGetConfig.getD StaConfig.zero).password.headD 0 ≠ 0) := by
    intro hset
    cases hconfig : esp.espWifiGetConfig with
    | none =>
        rw [hconfig] at hset
        exact hset.1 rfl
    | some config =>
        rw [hconfig] at hset
        exact hstored ⟨config, hconfig, hset⟩
  unfold initializeWifiStack at h
  cases hstart : startWifi esp with
  | error call =>
      rw [hstart] at h
      cases h
  | ok _ =>
      rw [hstart] at h
      simp only [if_neg hno] at h
      cases h
      rfl

/-- A dial whose stored network lacks an SSID or a password, as one that is
open does, or that has none stored, never connects, whatever the driver
posts: no attempt is made, and no event comes that would make one. -/
theorem unstored_never_connects {esp : EspIdf} {connect : EspErr}
    {s₀ s : Station} {es : List WifiStep} (hstored : ¬ StoredNetwork esp)
    (hboot : initializeWifiStack esp connect = .ok s₀)
    (hrun : system.run s₀ es = some s) :
    s.connected = false ∧ s.attempts = 0 ∧ .staDisconnected ∉ s.events := by
  have hstart : ¬ s₀.OnlineOrPending := by
    rw [initializeWifiStack_unstored hstored hboot]
    decide
  have hend := stranded_for_good hstart hrun
  unfold OnlineOrPending at hend
  rw [not_or, not_or] at hend
  exact ⟨Bool.eq_false_iff.mpr hend.1, by omega, hend.2.2⟩

/-- An open network is stored. -/
def openHome : EspIdf :=
  { storedHome with espWifiGetConfig := some ⟨[104, 111, 109, 101], [0]⟩ }

theorem openHome_unstored : ¬ StoredNetwork openHome := by
  rintro ⟨config, hconfig, -, hpassword⟩
  cases hconfig
  exact hpassword rfl

theorem openHome_boots : initializeWifiStack openHome .ok = .ok started := rfl

/-- The driver posts that the station has started, and something else. -/
def openHomeEnd : Station := ⟨false, 0, [.other 4]⟩

theorem run_openHome :
    system.run started [.post 3, .post 4, .handle .ok] = some openHomeEnd := by
  decide

theorem open_network_never_connects :
    openHomeEnd.connected = false ∧ openHomeEnd.attempts = 0
      ∧ .staDisconnected ∉ openHomeEnd.events :=
  unstored_never_connects openHome_unstored openHome_boots run_openHome

end Station

end WledDial
