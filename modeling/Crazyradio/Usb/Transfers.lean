/-
OUT transfers. A transfer reaches `usb_thread` as one command whose payload is what was received
and, behind it, whatever earlier transfers left in the static buffer. The inline branch reads as
many bytes as the data itself says, so earlier bytes can become settings or go on the air.
-/
import Crazyradio.Usb.Safety

namespace Crazyradio.Usb

open Bytes

/-! ## From packets to a command -/

/-- The OUT packets of a transfer: full ones of 64 bytes and a shorter one, possibly empty. -/
def transferPackets (xs : List UInt8) : List (List UInt8) :=
  if xs.length < crazyradioBulkEpMps then [xs]
  else xs.take crazyradioBulkEpMps :: transferPackets (xs.drop crazyradioBulkEpMps)
termination_by xs.length
decreasing_by
  have h64 : 64 ≤ xs.length := Nat.le_of_not_lt ‹_›
  exact List.length_drop ▸ Nat.sub_lt (Nat.lt_of_lt_of_le (by decide) h64) (by decide)

theorem transferPackets_short {xs : List UInt8} (h : xs.length < 64) : transferPackets xs = [xs] := by
  rw [transferPackets, if_pos h]

theorem transferPackets_long {xs : List UInt8} (h : 64 ≤ xs.length) :
    transferPackets xs = xs.take 64 :: transferPackets (xs.drop 64) := by
  rw [transferPackets, if_neg (Nat.not_lt.mpr h)]

/-- `c` holds `xs`, cut to what fits, from index `off` on over the bytes of `old`. -/
structure Holds (old : Buf 128) (off : Nat) (xs : List UInt8) (c : DataCommand) : Prop where
  length : c.length = off + (xs.take (128 - off)).length
  bytes : c.payload.bytes = old.bytes.take off ++ xs.take (128 - off) ++ old.bytes.drop c.length

/-- What is stored in two steps. -/
theorem Holds.append {old : Buf 128} {off : Nat} {xs ys : List UInt8} {c c' : DataCommand} (ho : off ≤ 128)
    (h : Holds old off xs c) (h' : Holds c.payload c.length ys c') : Holds old off (xs ++ ys) c' := by
  have hl := h.length
  have hx : (xs.take (128 - off)).length = min (128 - off) xs.length := List.length_take
  have hcut : 128 - c.length = 128 - off - xs.length := by omega
  have htake : (xs ++ ys).take (128 - off) = xs.take (128 - off) ++ ys.take (128 - c.length) := by
    rw [List.take_append, hcut]
  have hsize := old.size
  have hpre : (old.bytes.take off ++ xs.take (128 - off)).length = c.length := by
    rw [List.length_append, List.length_take, hl]
    omega
  constructor
  · rw [h'.length, htake, List.length_append, hl]
    omega
  · rw [h'.bytes, htake, h.bytes]
    have hc' : c.length ≤ c'.length := by rw [h'.length]; omega
    rw [List.take_append_of_le_length (by omega), List.take_of_length_le (by omega),
      List.drop_append, List.drop_of_length_le (by omega), hpre, List.nil_append, List.drop_drop]
    simp only [List.append_assoc]
    congr 4
    omega

/-- A packet while a transfer is accumulated. -/
theorem outCb_accumulating {cb : Callback} (h : cb.accumulating = true) (packet : List UInt8) :
    ∃ c, Holds cb.outCommand.payload cb.outCommand.length packet c ∧
      crazyradioOutCb packet cb =
        if packet.length < 64 then ({ cb with outCommand := c, accumulating := false }, some c)
        else ({ cb with outCommand := c }, none) := by
  have hle := cb.outCommand.length_le
  unfold crazyradioOutCb
  rw [h, if_pos rfl]
  simp only
  by_cases hp : packet.length ≤ 128 - cb.outCommand.length
  · refine ⟨cb.outCommand.store cb.outCommand.length packet (by omega), ⟨?_, ?_⟩, ?_⟩
    · rw [List.take_of_length_le hp]; rfl
    · rw [List.take_of_length_le hp]; rfl
    · simp only [dif_pos hp]
  · have hlen : (packet.take (128 - cb.outCommand.length)).length = 128 - cb.outCommand.length := by
      rw [List.length_take]; omega
    refine ⟨cb.outCommand.store cb.outCommand.length (packet.take (128 - cb.outCommand.length)) (by omega),
      ⟨rfl, rfl⟩, ?_⟩
    simp only [dif_neg hp]

/-- The first packet of a transfer; a bulk packet has at most 64 bytes. -/
theorem outCb_first {cb : Callback} (h : cb.accumulating = false) (packet : List UInt8) (hp : packet.length ≤ 64) :
    ∃ c, Holds cb.outCommand.payload 0 packet c ∧
      crazyradioOutCb packet cb =
        if packet.length < 64 then ({ cb with outCommand := c }, some c)
        else ({ cb with outCommand := c, accumulating := true }, none) := by
  unfold crazyradioOutCb
  rw [h, if_neg Bool.false_ne_true]
  refine ⟨cb.outCommand.store 0 packet (by omega), ⟨?_, ?_⟩, ?_⟩
  · rw [List.take_of_length_le (l := packet) (by omega)]; rfl
  · rw [List.take_of_length_le (l := packet) (by omega)]; rfl
  · simp only [dif_neg (by omega : ¬128 < packet.length)]
    by_cases hl : packet.length < 64
    · rw [if_neg (by simp [crazyradioBulkEpMps]; omega), if_pos hl]
    · rw [if_pos (by simp [crazyradioBulkEpMps]; omega), if_neg hl]

/-! ## Delivery -/

/-- The packets of a transfer as events. -/
def outEvents (xs : List UInt8) : List Event := (transferPackets xs).map .out

theorem step_out {env : Env} {s : System} (hh : s.halted = false) {packet : List UInt8} (hp : packet.length ≤ 64) :
    s.step env (.out packet) = match crazyradioOutCb packet s.cb with
      | (cb, some c) => { s with cb }.put (.data c)
      | (cb, none) => some { s with cb } := by
  unfold System.step System.out
  rw [hh, if_neg Bool.false_ne_true]
  exact if_pos hp

theorem put_empty {s : System} (hq : s.queue = []) (c : UsbCommand) : s.put c = some { s with queue := [c] } := by
  unfold System.put
  rw [hq, if_pos (by decide)]
  rfl

/-- The rest of a transfer. -/
theorem deliver_rest (env : Env) : ∀ (n : Nat) (xs : List UInt8) (s : System), xs.length ≤ n → s.halted = false →
    s.queue = [] → s.cb.accumulating = true → ∃ c, Holds s.cb.outCommand.payload s.cb.outCommand.length xs c ∧
      s.run env (outEvents xs) =
        some { s with cb := { s.cb with outCommand := c, accumulating := false }, queue := [.data c] } := by
  intro n
  induction n using Nat.strongRecOn with
  | ind n ih =>
    intro xs s hn hh hq ha
    unfold outEvents
    by_cases hl : xs.length < 64
    · obtain ⟨c, hc, hcb⟩ := outCb_accumulating ha xs
      rw [if_pos hl] at hcb
      refine ⟨c, hc, ?_⟩
      rw [transferPackets_short hl, List.map_singleton, System.run, step_out hh (by omega), hcb]
      simp only
      rw [put_empty (s := { s with cb := { s.cb with outCommand := c, accumulating := false } }) hq]
      rfl
    · obtain ⟨c, hc, hcb⟩ := outCb_accumulating ha (xs.take 64)
      have ht : (xs.take 64).length = 64 := by rw [List.length_take]; omega
      rw [if_neg (by omega)] at hcb
      obtain ⟨c', hc', hr⟩ := ih (xs.drop 64).length (by rw [List.length_drop]; omega) (xs.drop 64)
        { s with cb := { s.cb with outCommand := c } } (Nat.le_refl _) hh hq ha
      have happ := hc.append s.cb.outCommand.length_le hc'
      rw [List.take_append_drop] at happ
      refine ⟨c', happ, ?_⟩
      rw [transferPackets_long (by omega), List.map_cons, System.run, step_out hh (by omega), hcb]
      exact hr

/-- No command on its way and no transfer under way. -/
structure System.Idle (s : System) : Prop where
  queue : s.queue = []
  pc : s.pc = .top
  accumulating : s.cb.accumulating = false
  halted : s.halted = false

/-- A transfer to an idle system is one command in the queue. -/
theorem deliver (env : Env) (xs : List UInt8) {s : System} (hs : s.Idle) :
    ∃ c, Holds s.cb.outCommand.payload 0 xs c ∧
      s.run env (outEvents xs) = some { s with cb := { s.cb with outCommand := c }, queue := [.data c] } := by
  obtain ⟨hq, -, ha, hh⟩ := hs
  unfold outEvents
  by_cases hl : xs.length < 64
  · obtain ⟨c, hc, hcb⟩ := outCb_first ha xs (by omega)
    rw [if_pos hl] at hcb
    refine ⟨c, hc, ?_⟩
    rw [transferPackets_short hl, List.map_singleton, System.run, step_out hh (by omega), hcb]
    simp only
    rw [put_empty (s := { s with cb := { s.cb with outCommand := c } }) hq]
    rfl
  · have ht : (xs.take 64).length = 64 := by rw [List.length_take]; omega
    obtain ⟨c, hc, hcb⟩ := outCb_first ha (xs.take 64) (by omega)
    rw [if_neg (by omega)] at hcb
    obtain ⟨c', hc', hr⟩ := deliver_rest env (xs.drop 64).length (xs.drop 64)
      { s with cb := { s.cb with outCommand := c, accumulating := true } } (Nat.le_refl _) hh hq rfl
    have happ := hc.append (Nat.zero_le 128) hc'
    rw [List.take_append_drop] at happ
    refine ⟨c', happ, ?_⟩
    rw [transferPackets_long (by omega), List.map_cons, System.run, step_out hh (by omega), hcb]
    obtain ⟨dev, ⟨outCommand, accumulating, vendorCommand⟩, queue, pc, halted⟩ := s
    cases (ha : accumulating = false)
    exact hr

/-! ## The same settings -/

/-- The driver up to the packet id and the log. -/
def core (e : Esb) : Esb := { e with pid := 0, log := [] }

/-- Two devices with the same settings selected and in effect. -/
structure SameSettings (d₁ d₂ : Device) : Prop where
  channel : d₁.state.channel = d₂.state.channel
  datarate : d₁.state.datarate = d₂.state.datarate
  ackEnabled : d₁.state.ackEnabled = d₂.state.ackEnabled
  inlineMode : d₁.state.inlineMode = d₂.state.inlineMode
  inlineRssiMode : d₁.state.inlineRssiMode = d₂.state.inlineRssiMode
  snifferMode : d₁.state.snifferMode = d₂.state.snifferMode
  driver : core d₁.esb = core d₂.esb

theorem SameSettings.symm {d₁ d₂ : Device} (h : SameSettings d₁ d₂) : SameSettings d₂ d₁ :=
  ⟨h.channel.symm, h.datarate.symm, h.ackEnabled.symm, h.inlineMode.symm, h.inlineRssiMode.symm,
    h.snifferMode.symm, h.driver.symm⟩

theorem SameSettings.trans {d₁ d₂ d₃ : Device} (h : SameSettings d₁ d₂) (h' : SameSettings d₂ d₃) :
    SameSettings d₁ d₃ :=
  ⟨h.channel.trans h'.channel, h.datarate.trans h'.datarate, h.ackEnabled.trans h'.ackEnabled,
    h.inlineMode.trans h'.inlineMode, h.inlineRssiMode.trans h'.inlineRssiMode,
    h.snifferMode.trans h'.snifferMode, h.driver.trans h'.driver⟩

theorem SameSettings.of_kept {d d' : Device} (h : Kept d d') (hc : core d.esb = core d'.esb) : SameSettings d d' :=
  ⟨h.channel.symm, h.datarate.symm, h.ackEnabled.symm, h.inlineMode.symm, h.inlineRssiMode.symm,
    h.snifferMode.symm, hc⟩

theorem core_setChannel (channel : UInt8) (e : Esb) :
    core (esbSetChannel channel e) = core (esbSetChannel channel (core e)) := by
  unfold esbSetChannel
  split <;> rfl

theorem core_setBitrate (bitrate : UInt8) (e : Esb) :
    core (esbSetBitrate bitrate e) = core (esbSetBitrate bitrate (core e)) := by
  unfold esbSetBitrate
  split
  · rfl
  · split <;> rfl

/-- The inline settings depend on the driver's settings only. -/
theorem core_inlineSettings (h : InlineModeOutHeader) (d : Device) : core (inlineSettings h d).esb =
    core (esbSetAddress h.address (esbSetAckEnabled h.ackEnabled
      (core (esbSetBitrate (UInt8.ofNat h.datarate) (core (esbSetChannel h.channel (core d.esb))))))) := by
  have ha : ∀ e, core (esbSetAddress h.address (esbSetAckEnabled h.ackEnabled e)) =
      core (esbSetAddress h.address (esbSetAckEnabled h.ackEnabled (core e))) := fun _ => rfl
  rw [← core_setChannel, ← core_setBitrate, ← ha]
  rfl

theorem sameSettings_inlineSettings {d₁ d₂ : Device} (h : SameSettings d₁ d₂) (hd : InlineModeOutHeader) :
    SameSettings (inlineSettings hd d₁) (inlineSettings hd d₂) :=
  ⟨rfl, rfl, rfl, h.inlineMode, h.inlineRssiMode, h.snifferMode, by
    rw [core_inlineSettings, core_inlineSettings, h.driver]⟩

theorem core_usbSend (env : Env) (d : Device) : core (usbSend env d).2.esb = core d.esb := by
  obtain ⟨pid, log, h⟩ := esbSendPacket_kept (env d.sends) d.usb d.esb
  have he : (usbSend env d).2.esb = { d.esb with pid, log } := h
  rw [he]
  rfl

theorem core_guardedSend (env : Env) (d : Device) : core (guardedSend env d).esb = core d.esb := by
  unfold guardedSend
  split
  · rw [capAck_esb, core_usbSend]
  · rfl

/-! ## What an inline command transmits -/

/-- The payloads put on the air from `d` to `d'`. -/
def newPayloads (d d' : Device) : List (List UInt8) :=
  ((transmissions d'.esb.log).drop (transmissions d.esb.log).length).map Transmission.payload

theorem newPayloads_append {d d' : Device} (ts : List Transmission)
    (h : transmissions d'.esb.log = transmissions d.esb.log ++ ts) :
    newPayloads d d' = ts.map Transmission.payload := by
  unfold newPayloads
  rw [h, List.drop_left]

/-- What the send guard puts on the air for a loaded packet. -/
theorem newPayloads_guardedSend (env : Env) (d : Device) (payload : Buf 128) (off : Nat) {n : Nat} (hn : n ≤ 63)
    (ho : off + n ≤ 128) : newPayloads d (guardedSend env (d.load payload off n hn)) =
      if d.state.handled && d.esb.sends (env d.sends).packetDraw then
        List.replicate ((env d.sends).retries (core d.esb) + 1) (payload.read off (min n d.esb.radio.maxlen))
      else [] := by
  let d₁ := d.load payload off n hn
  cases hg : d.state.handled with
  | false =>
    rw [guardedSend_neg (d := d.load payload off n hn) hg]
    exact newPayloads_append [] (List.append_nil _).symm
  | true =>
    rw [guardedSend_pos (d := d.load payload off n hn) hg, Bool.true_and]
    cases hx : d.esb.sends (env d.sends).packetDraw with
    | false =>
      have he : (usbSend env d₁).2.esb = d.esb := congrArg (·.2.2) (esbSendPacket_exit (b := d₁.usb) hx)
      rw [if_neg Bool.false_ne_true]
      refine newPayloads_append [] ?_
      rw [capAck_esb, he, List.append_nil]
    | true =>
      have he := esbSendPacket_esb (e := d.esb) hx d₁.usb
      have he : (usbSend env d₁).2.esb = _ := he
      rw [if_pos rfl]
      refine (newPayloads_append (List.replicate ((env d.sends).retries d.esb + 1)
        (onAir d.esb.radio { d₁.usb.packet with s1 := ackS1 d.esb.pid })) ?_).trans ?_
      · rw [capAck_esb, he]
        exact (transmissions_append _ _).trans (congrArg _ (transmissions_onAir (env d.sends) d₁.usb d.esb))
      · rw [List.map_replicate, onAir_load d payload hn ho]
        rfl

/-- An inline command with a complete header: the settings are its own, and the payload it sends is
as long as the header says, up to 32 bytes. -/
theorem handleCommand_inline_sends (env : Env) {c : DataCommand} {d : Device} (hv : DevInv d)
    (hs : d.state.snifferMode = false) (hi : d.state.inlineMode = true)
    (hl : 8 ≤ (inlineModeOutHeader c.payload).length.toNat) : ∃ d', handleCommand env (.data c) d = .ok d' ∧
      SameSettings (inlineSettings (inlineModeOutHeader c.payload) d) d' ∧
      newPayloads d d' =
        if (inlineSettings (inlineModeOutHeader c.payload) d).state.handled && d.esb.sends (env d.sends).packetDraw then
          List.replicate ((env d.sends).retries (core (inlineSettings (inlineModeOutHeader c.payload) d).esb) + 1)
            (c.payload.read 8 (min ((inlineModeOutHeader c.payload).length.toNat - 8) 32))
        else [] := by
  let k := min ((inlineModeOutHeader c.payload).length.toNat - 8) 40
  have hk40 : min k 32 = min ((inlineModeOutHeader c.payload).length.toNat - 8) 32 := by omega
  have hk63 : k ≤ 63 := by omega
  let d₀ := inlineSettings (inlineModeOutHeader c.payload) d
  have hb : buildPacket env c d = .ok (d₀.load c.payload 8 k hk63) := buildPacket_header env hi hl
  obtain ⟨b, p, hd⟩ := handleCommand_data env hs hb
  have hm : d₀.esb.radio.maxlen = 32 := by
    have := (devInv_inlineSettings hv (inlineModeOutHeader c.payload)).maxlen
    rw [this]
    exact if_neg (Bool.eq_false_iff.mp hs)
  refine ⟨_, hd, ?_, ?_⟩
  · refine SameSettings.of_kept ((kept_load d₀ c.payload hk63).trans
      ((kept_guardedSend env _).trans (kept_answered _ _ b p))) ?_
    exact (core_guardedSend env (d₀.load c.payload 8 k hk63)).symm
  · have hsilent : transmissions d₀.esb.log = transmissions d.esb.log :=
      (emits_inlineSettings (inlineModeOutHeader c.payload) d).silent_iff.mpr id
    have hnew := newPayloads_guardedSend env d₀ c.payload 8 hk63 (by omega)
    have hsends : d₀.esb.sends (env d.sends).packetDraw = d.esb.sends (env d.sends).packetDraw := by
      have := passes_inlineSettings env (inlineModeOutHeader c.payload) d 0
      exact Bool.eq_iff_iff.mpr this
    rw [hm, hk40] at hnew
    unfold newPayloads at hnew ⊢
    rw [← hsilent, ← hsends]
    exact hnew

/-! ## Two runs -/

/-- The events of a transfer to an idle system, with its command handled. -/
def transferEvents (xs : List UInt8) : List Event := outEvents xs ++ [.fetch, .handle]

/-- Handling the transfer depends on what was received: wherever two histories left the same
settings with inline mode on, and the surroundings of the call are the same, it applies the same
settings and transmits the same payload. -/
def OnlyReceived (xs : List UInt8) : Prop :=
  ∀ (env₁ env₂ : Env) (s₁ s₂ : System), Reachable env₁ s₁ → Reachable env₂ s₂ → s₁.Idle → s₂.Idle →
    s₁.dev.state.inlineMode = true → s₁.dev.state.snifferMode = false → SameSettings s₁.dev s₂.dev →
    env₁ s₁.dev.sends = env₂ s₂.dev.sends →
    ∃ s₁' s₂', s₁.run env₁ (transferEvents xs) = some s₁' ∧ s₂.run env₂ (transferEvents xs) = some s₂' ∧
      SameSettings s₁'.dev s₂'.dev ∧ newPayloads s₁.dev s₁'.dev = newPayloads s₂.dev s₂'.dev

theorem received_fits (xs : List UInt8) : 0 + (xs.take 128).length ≤ 128 := by
  rw [Nat.zero_add]
  exact List.length_take_le 128 xs

/-- What is received, over zeros. -/
def receivedBuf (xs : List UInt8) : Buf 128 := (Buf.fill 128 0).blit 0 (xs.take 128) (received_fits xs)

/-- A complete header was received, its length counts it, and the payload it announces, up to the 32
bytes that go on the air, was received too unless nothing is sent. -/
def Complete (xs : List UInt8) : Prop :=
  let h := inlineModeOutHeader (receivedBuf xs)
  8 ≤ (xs.take 128).length ∧ 8 ≤ h.length.toNat ∧
    (h.datarate.val ≠ 0 → h.channel ≤ 100 → min (h.length.toNat - 8) 32 ≤ (xs.take 128).length - 8)

theorem system_run_append (env : Env) : ∀ (es fs : List Event) (s : System),
    s.run env (es ++ fs) = (s.run env es).bind fun s' => s'.run env fs
  | [], _, _ => rfl
  | e :: es, fs, s => by
    simp only [List.cons_append, System.run]
    cases s.step env e with
    | none => rfl
    | some s' => exact system_run_append env es fs s'

/-- A transfer outside sniffer mode, to an idle system. -/
theorem run_transfer (env : Env) (xs : List UInt8) {s : System} (hs : s.Idle) (hn : s.dev.state.snifferMode = false) :
    ∃ c, Holds s.cb.outCommand.payload 0 xs c ∧
      s.run env (transferEvents xs) = match handleCommand env (.data c) s.dev with
        | .ok dev => some { s with dev, cb := { s.cb with outCommand := c }, queue := [], pc := .top }
        | .error _ => none := by
  obtain ⟨c, hc, hr⟩ := deliver env xs hs
  refine ⟨c, hc, ?_⟩
  unfold transferEvents
  rw [system_run_append, hr]
  simp only [Option.bind_some, System.run, System.step, System.fetch, hs.halted, hs.pc, Bool.false_eq_true, if_false]
  simp only [bind, Option.bind_some, System.handle]
  cases handleCommand env (.data c) s.dev with
  | error f => rfl
  | ok dev => simp only [hn, Bool.false_and, Bool.false_eq_true, if_false]; rfl

/-! ## What the header and the payload are read from -/

theorem Holds.read {old : Buf 128} {xs : List UInt8} {c : DataCommand} (h : Holds old 0 xs c) (off len : Nat)
    (hl : off + len ≤ (xs.take 128).length) : c.payload.read off len = ((xs.take 128).drop off).take len := by
  have hr : c.payload.read 0 (xs.take 128).length = xs.take 128 := by
    rw [Buf.read, h.bytes, List.take_zero, List.nil_append, List.drop_zero]
    exact List.take_left
  rw [c.payload.read_of_zero _ hl, hr]

/-- Behind the bytes received the payload is what it was. -/
theorem Holds.get_behind {old : Buf 128} {xs : List UInt8} {c : DataCommand} (h : Holds old 0 xs c) {i : Nat}
    (hi : (xs.take 128).length ≤ i) : c.payload.get i = old.get i := by
  have hlen : c.length = (xs.take 128).length := h.length.trans (Nat.zero_add _)
  unfold Buf.get
  rw [h.bytes, List.take_zero, List.nil_append, hlen]
  simp only [List.getD_eq_getElem?_getD]
  rw [List.getElem?_append_right hi, List.getElem?_drop, Nat.add_sub_cancel' hi]

theorem inlineModeOutHeader_congr {p q : Buf 128} (h : p.read 0 8 = q.read 0 8) :
    inlineModeOutHeader p = inlineModeOutHeader q := by
  have hg : ∀ i, i < 8 → p.get i = q.get i := fun i hi => by rw [p.get_eq_read hi, q.get_eq_read hi, h]
  have ha : p.read 3 5 = q.read 3 5 := by
    rw [p.read_of_zero 8 (by decide), q.read_of_zero 8 (by decide), h]
  unfold inlineModeOutHeader
  simp only [hg 0 (by decide), hg 1 (by decide), hg 2 (by decide), ha]

/-- A header that was received is the one of the bytes received. -/
theorem Holds.header {old : Buf 128} {xs : List UInt8} {c : DataCommand} (h : Holds old 0 xs c)
    (hl : 8 ≤ (xs.take 128).length) : inlineModeOutHeader c.payload = inlineModeOutHeader (receivedBuf xs) := by
  refine inlineModeOutHeader_congr ?_
  rw [h.read 0 8 (by omega)]
  have hr : (receivedBuf xs).read 0 (xs.take 128).length = xs.take 128 :=
    (Buf.fill 128 0).read_blit rfl (by have := List.length_take_le 128 xs; omega)
  rw [(receivedBuf xs).read_of_zero (xs.take 128).length (by omega), hr]

theorem sends_core {e₁ e₂ : Esb} (h : core e₁ = core e₂) (draw : UInt32) : e₁.sends draw = e₂.sends draw := by
  have hc : ∀ e : Esb, e.sends draw = (core e).sends draw := fun _ => rfl
  rw [hc, hc e₂, h]

/-- The send guard behind inline settings. -/
theorem inlineSettings_handled_iff (h : InlineModeOutHeader) (d : Device) :
    (inlineSettings h d).state.handled = true ↔ h.datarate.val ≠ 0 ∧ h.channel ≤ 100 := by
  have hr : UInt8.ofNat h.datarate = 0 ↔ h.datarate.val = 0 := by
    rw [← UInt8.toNat_inj, UInt8.toNat_ofNat']
    have := h.datarate.isLt
    show h.datarate.val % 256 = 0 ↔ h.datarate.val = 0
    omega
  show (decide (UInt8.ofNat h.datarate ≠ 0) && decide (h.channel ≤ 100)) = true ↔ _
  rw [Bool.and_eq_true, decide_eq_true_iff, decide_eq_true_iff, Ne, hr]

/-- A complete transfer is handled by what was received. -/
theorem onlyReceived_of_complete {xs : List UInt8} (hc : Complete xs) : OnlyReceived xs := by
  obtain ⟨hn, hl, hp⟩ := hc
  intro env₁ env₂ s₁ s₂ hr₁ hr₂ hi₁ hi₂ hm hs hsame henv
  obtain ⟨v₁, hv₁⟩ := (reachable_devReachable hr₁).settled
  obtain ⟨v₂, hv₂⟩ := (reachable_devReachable hr₂).settled
  obtain ⟨c₁, hc₁, ht₁⟩ := run_transfer env₁ xs hi₁ hs
  obtain ⟨c₂, hc₂, ht₂⟩ := run_transfer env₂ xs hi₂ (hsame.snifferMode.symm.trans hs)
  have hh₁ := hc₁.header hn
  have hh₂ := hc₂.header hn
  obtain ⟨d₁, hd₁, hset₁, hnew₁⟩ := handleCommand_inline_sends env₁ hv₁.2 hs hm (by rw [hh₁]; exact hl)
  obtain ⟨d₂, hd₂, hset₂, hnew₂⟩ := handleCommand_inline_sends env₂ hv₂.2
    (hsame.snifferMode.symm.trans hs) (hsame.inlineMode.symm.trans hm) (by rw [hh₂]; exact hl)
  rw [hd₁] at ht₁
  rw [hd₂] at ht₂
  rw [hh₁] at hset₁ hnew₁
  rw [hh₂] at hset₂ hnew₂
  have hset := sameSettings_inlineSettings hsame (inlineModeOutHeader (receivedBuf xs))
  refine ⟨_, _, ht₁, ht₂, hset₁.symm.trans (hset.trans hset₂), ?_⟩
  show newPayloads s₁.dev d₁ = newPayloads s₂.dev d₂
  have hhandled : (inlineSettings (inlineModeOutHeader (receivedBuf xs)) s₁.dev).state.handled =
      (inlineSettings (inlineModeOutHeader (receivedBuf xs)) s₂.dev).state.handled := rfl
  have hsends : s₁.dev.esb.sends (env₂ s₂.dev.sends).packetDraw = s₂.dev.esb.sends (env₂ s₂.dev.sends).packetDraw :=
    sends_core hsame.driver _
  rw [hnew₁, hnew₂, henv, hset.driver, hhandled, hsends]
  split
  · rename_i hg
    rw [Bool.and_eq_true, inlineSettings_handled_iff] at hg
    have hle := hp hg.1.1 hg.1.2
    rw [hc₁.read _ _ (by omega), hc₂.read _ _ (by omega)]
  · rfl

/-! ## Two histories that differ in one transfer -/

/-- The device behind `SET_INLINE_MODE` from boot. -/
def inlineBoot : Device := { boot with state := { boot.state with inlineMode := true } }

/-- `SET_INLINE_MODE` with 1, to an idle system outside sniffer mode. -/
theorem run_setInlineMode (env : Env) {s : System} (hs : s.Idle) (hn : s.dev.state.snifferMode = false) :
    ∃ s', s.run env [.request (hostRequest setInlineMode 1) [], .fetch, .handle] = some s' ∧ s'.Idle ∧
      s'.dev = { s.dev with state := { s.dev.state with inlineMode := true, inlineRssiMode := false } } ∧
      s'.cb.outCommand = s.cb.outCommand := by
  obtain ⟨dev, cb, queue, pc, halted⟩ := s
  obtain ⟨hq, hp, ha, hh⟩ := hs
  cases (hq : queue = [])
  cases (hp : pc = .top)
  cases (hh : halted = false)
  obtain ⟨_, ⟨_, _, _, _, _, _, _, snifferMode, _⟩, _, _, _, _, _, _, _, _, _, _⟩ := dev
  cases (hn : snifferMode = false)
  exact ⟨_, rfl, ⟨rfl, rfl, ha, rfl⟩, rfl, rfl⟩

/-- A data command at boot leaves the settings as they are. -/
theorem handleCommand_boot (c : DataCommand) : ∃ dev, handleCommand (fun _ => .silent) (.data c) boot = .ok dev ∧
    Kept boot dev ∧ core boot.esb = core dev.esb := by
  have hb := buildPacket_plain (fun _ => .silent) c boot rfl rfl
  obtain ⟨b, p, hd⟩ := handleCommand_data (fun _ => .silent) rfl hb
  refine ⟨_, hd, ?_, ?_⟩
  · exact (kept_load boot c.payload (by omega)).trans ((kept_guardedSend _ _).trans (kept_answered _ _ b p))
  · exact (core_guardedSend (fun _ => .silent) (boot.load c.payload 0 (min c.length 32) (by omega))).symm

/-- For every byte `b` there is a reachable idle system with the settings of `inlineBoot` whose
static buffer is full of `b`. -/
theorem history_of_byte (b : UInt8) : ∃ s, Reachable (fun _ => .silent) s ∧ s.Idle ∧
    SameSettings inlineBoot s.dev ∧ ∀ i < 128, s.cb.outCommand.payload.get i = b := by
  obtain ⟨c, hc, hr⟩ :=
    run_transfer (fun _ => .silent) (List.replicate 128 b) (s := System.boot) ⟨rfl, rfl, rfl, rfl⟩ rfl
  obtain ⟨dev, hd, hk, hcore⟩ := handleCommand_boot c
  rw [show System.boot.dev = boot from rfl, hd] at hr
  obtain ⟨s', hi, hidle, hdev, hout⟩ := run_setInlineMode (fun _ => .silent)
    (s := { System.boot with dev, cb := { System.boot.cb with outCommand := c } }) ⟨rfl, rfl, rfl, rfl⟩ hk.snifferMode
  refine ⟨s', ⟨transferEvents (List.replicate 128 b) ++
    [.request (hostRequest setInlineMode 1) [], .fetch, .handle], ?_⟩, hidle, ?_, ?_⟩
  · rw [system_run_append, hr]
    exact hi
  · rw [hdev]
    exact ⟨hk.channel.symm, hk.datarate.symm, hk.ackEnabled.symm, rfl, rfl, hk.snifferMode.symm, hcore⟩
  · intro i hlt
    rw [hout]
    have h128 : (List.replicate 128 b).take 128 = List.replicate 128 b := List.take_of_length_le (by simp)
    have hread := hc.read 0 128 (by simp)
    rw [c.payload.get_eq_read hlt, hread, h128, List.drop_zero, h128, List.getD_eq_getElem?_getD,
      List.getElem?_replicate_of_lt hlt]
    rfl

/-- What `xs` behind the history of one byte does: the command `c` starts with `xs` and goes on with
that byte, and if it is handled its header counts itself, its settings are applied and its payload
is sent. -/
structure HandledBehind (b : UInt8) (xs : List UInt8) (s : System) (c : DataCommand) : Prop where
  reachable : Reachable (fun _ => .silent) s
  idle : s.Idle
  same : SameSettings inlineBoot s.dev
  behind : ∀ i, (xs.take 128).length ≤ i → i < 128 → c.payload.get i = b
  header : 8 ≤ (xs.take 128).length → inlineModeOutHeader c.payload = inlineModeOutHeader (receivedBuf xs)
  length : ∀ s', s.run (fun _ => .silent) (transferEvents xs) = some s' →
    8 ≤ (inlineModeOutHeader c.payload).length.toNat
  settings : ∀ s', s.run (fun _ => .silent) (transferEvents xs) = some s' →
    SameSettings (inlineSettings (inlineModeOutHeader c.payload) inlineBoot) s'.dev
  payload : ∀ s', s.run (fun _ => .silent) (transferEvents xs) = some s' →
    (inlineSettings (inlineModeOutHeader c.payload) inlineBoot).state.handled = true → ∃ k, newPayloads s.dev s'.dev =
      List.replicate (k + 1) (c.payload.read 8 (min ((inlineModeOutHeader c.payload).length.toNat - 8) 32))

theorem handled_history (xs : List UInt8) (b : UInt8) : ∃ s c, HandledBehind b xs s c := by
  obtain ⟨s, hr, hi, hsame, hb⟩ := history_of_byte b
  obtain ⟨c, hc, hrun⟩ := run_transfer (fun _ => .silent) xs hi (hsame.snifferMode.symm.trans rfl)
  obtain ⟨v, hv⟩ := (reachable_devReachable hr).settled
  have handled : ∀ s', s.run (fun _ => .silent) (transferEvents xs) = some s' →
      handleCommand (fun _ => .silent) (.data c) s.dev = .ok s'.dev := by
    intro s' hs'
    rw [hrun] at hs'
    cases hd : handleCommand (fun _ => .silent) (.data c) s.dev with
    | error f => rw [hd] at hs'; cases hs'
    | ok dev => rw [hd] at hs'; cases hs'; rfl
  have hsniff : s.dev.state.snifferMode = false := hsame.snifferMode.symm
  have hinline : s.dev.state.inlineMode = true := hsame.inlineMode.symm
  have length : ∀ s', s.run (fun _ => .silent) (transferEvents xs) = some s' →
      8 ≤ (inlineModeOutHeader c.payload).length.toNat := by
    intro s' hs'
    have hcopies := (handleCommand_data_isOk_iff _ c hsniff).mp ⟨_, handled s' hs'⟩
    unfold Device.copies at hcopies
    rw [hinline, if_pos rfl, decide_eq_true_iff] at hcopies
    exact hcopies
  have sent : ∀ s', s.run (fun _ => .silent) (transferEvents xs) = some s' → _ := fun s' hs' =>
    handleCommand_inline_sends (fun _ => .silent) (c := c) hv.2 hsniff hinline (length s' hs')
  refine ⟨s, c, hr, hi, hsame, fun i hle hlt => (hc.get_behind hle).trans (hb i hlt), hc.header, length, ?_, ?_⟩
  · intro s' hs'
    obtain ⟨d', hd, hset, -⟩ := sent s' hs'
    cases hd.symm.trans (handled s' hs')
    exact (sameSettings_inlineSettings hsame _).trans hset
  · intro s' hs' hhandled
    obtain ⟨d', hd, -, hnew⟩ := sent s' hs'
    cases hd.symm.trans (handled s' hs')
    refine ⟨_, hnew.trans (if_pos ?_)⟩
    have hx : inlineBoot.esb.sends 0 = true := rfl
    rw [Bool.and_eq_true]
    exact ⟨hhandled, (sends_core hsame.driver 0).symm.trans hx⟩

/-! ## Bytes that were not received -/

theorem get_of_read {n : Nat} {p q : Buf n} (off len : Nat) (h : p.read off len = q.read off len) {i : Nat}
    (ho : off ≤ i) (hi : i < off + len) : p.get i = q.get i := by
  have hg : ∀ b : Buf n, b.get i = (b.read off len).getD (i - off) 0 := fun b => by
    rw [Buf.get, Buf.read]
    simp only [List.getD_eq_getElem?_getD]
    rw [List.getElem?_take_of_lt (by omega), List.getElem?_drop, Nat.add_sub_cancel' ho]
  rw [hg p, hg q, h]

/-- The same address in two headers is the same five bytes. -/
theorem get_of_address {p q : Buf 128} (h : (inlineModeOutHeader p).address = (inlineModeOutHeader q).address) :
    p.get 7 = q.get 7 := by
  have hr : ∀ b : Buf 128, (inlineModeOutHeader b).address.bytes = b.read 3 5 := fun b => by
    have hl : (b.read 3 5).length = 5 := b.length_read (by decide)
    show [] ++ b.read 3 5 ++ List.drop (0 + (b.read 3 5).length) (List.replicate 5 0) = _
    rw [hl]
    exact List.append_nil _
  exact get_of_read 3 5 (by rw [← hr p, ← hr q, h]) (by decide) (by decide)

theorem SameSettings.address {h₁ h₂ : InlineModeOutHeader} {d₁ d₂ : Device}
    (h : SameSettings (inlineSettings h₁ d₁) (inlineSettings h₂ d₂)) : h₁.address = h₂.address :=
  congrArg Esb.currentPipe0Address h.driver

theorem replicate_inj {α : Type} {m n : Nat} {x y : α} (h : List.replicate (m + 1) x = List.replicate (n + 1) y) :
    x = y := by
  rw [List.replicate_succ, List.replicate_succ] at h
  exact (List.cons.inj h).1

/-- Behind the histories of two bytes an incomplete transfer is handled differently. -/
theorem complete_of_onlyReceived {xs : List UInt8} (h : OnlyReceived xs) : Complete xs := by
  obtain ⟨s₁, c₁, h₁⟩ := handled_history xs 8
  obtain ⟨s₂, c₂, h₂⟩ := handled_history xs 9
  obtain ⟨s₁', s₂', ht₁, ht₂, hsame, hnew⟩ := h _ _ s₁ s₂ h₁.reachable h₂.reachable h₁.idle h₂.idle
    (h₁.same.inlineMode.symm.trans rfl) (h₁.same.snifferMode.symm.trans rfl) (h₁.same.symm.trans h₂.same) rfl
  have differ : ∀ i, (xs.take 128).length ≤ i → i < 128 → c₁.payload.get i ≠ c₂.payload.get i := by
    intro i hle hlt heq
    rw [h₁.behind i hle hlt, h₂.behind i hle hlt] at heq
    exact absurd heq (by decide)
  have hn : 8 ≤ (xs.take 128).length := by
    -- the last byte of the address would not have been received
    by_contra hn
    have haddress := ((h₁.settings s₁' ht₁).trans (hsame.trans (h₂.settings s₂' ht₂).symm)).address
    exact differ 7 (by omega) (by decide) (get_of_address haddress)
  have hh₁ := h₁.header hn
  have hh₂ := h₂.header hn
  refine ⟨hn, hh₁ ▸ h₁.length s₁' ht₁, fun hr hc => ?_⟩
  -- the first byte behind what was received would be on the air
  by_contra hp
  have hhandled := (inlineSettings_handled_iff (inlineModeOutHeader (receivedBuf xs)) inlineBoot).mpr ⟨hr, hc⟩
  obtain ⟨k₁, hk₁⟩ := h₁.payload s₁' ht₁ (by rw [hh₁]; exact hhandled)
  obtain ⟨k₂, hk₂⟩ := h₂.payload s₂' ht₂ (by rw [hh₂]; exact hhandled)
  rw [hk₁, hk₂, hh₁, hh₂] at hnew
  have hread := replicate_inj hnew
  exact differ (xs.take 128).length (Nat.le_refl _) (by omega) (get_of_read _ _ hread hn (by omega))

/-- Handling a transfer depends on nothing but the bytes received exactly when it is complete. -/
theorem onlyReceived_iff (xs : List UInt8) : OnlyReceived xs ↔ Complete xs :=
  ⟨complete_of_onlyReceived, onlyReceived_of_complete⟩

/-- An empty transfer is handled as whatever earlier transfers left in the buffer. -/
theorem earlier_bytes_sent : ¬ ∀ xs, OnlyReceived xs := by
  intro h
  obtain ⟨hn, -⟩ := complete_of_onlyReceived (h [])
  exact absurd hn (by decide)

end Crazyradio.Usb
