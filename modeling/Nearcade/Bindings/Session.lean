import Nearcade.Support.Format
import Nearcade.Source.Godot
import Nearcade.System.Getters
import Nearcade.System.Invariants

/-!
# Bindings — Session

What a script is shown of the session it has started: the address of the host, the URL for the
viewers and the PIN, each through a buffer of its own size.

* `getLanIp_eq`: the address is that of the first IPv4 interface that is no loopback, or
  `127.0.0.1`, in dotted form.
* `url_eq`: the URL is a format of the four bytes and the port, so it determines them.
* `session_shown`: from a successful `nearcade_init` to the next, whatever is called and whatever
  comes from the network, a script reads the whole address, a URL that gives the address and the
  port back, and a PIN of four digits.
-/

namespace Nearcade
open Text Runs

/-! ### The address -/

/-- The numbers of an address. -/
def addrInts (addr : UInt8 × UInt8 × UInt8 × UInt8) : List Int :=
  [addr.1.toNat, addr.2.1.toNat, addr.2.2.1.toNat, addr.2.2.2.toNat]

/-- The address the SDK shows: that of an interface, or the loopback address. -/
def shownAddr (ifs : Option (List Ifaddrs)) : UInt8 × UInt8 × UInt8 × UInt8 :=
  (ifs.bind lanAddr).getD (127, 0, 0, 1)

/-- `"%d.%d.%d.%d"`. -/
def dotted : Format := ⟨[], [bytes ".", bytes ".", bytes ".", []]⟩

/-- `"ws://%d.%d.%d.%d:%d"`. -/
def urlFormat : Format := ⟨bytes "ws://", [bytes ".", bytes ".", bytes ".", bytes ":", []]⟩

theorem separated_urlFormat : Separated urlFormat.seps := by
  have hdot : bytes "." ≠ [] ∧ NoDigit (bytes ".") := ⟨by decide, noDigit_of_head (by decide)⟩
  have hcolon : bytes ":" ≠ [] ∧ NoDigit (bytes ":") := ⟨by decide, noDigit_of_head (by decide)⟩
  exact ⟨hdot, hdot, hdot, hcolon, noDigit_nil⟩

theorem inInt_byte (b : UInt8) : InInt (b.toNat : Int) := by
  have := b.toNat_lt
  exact ⟨by omega, by omega⟩

theorem inInt_addrInts {addr : UInt8 × UInt8 × UInt8 × UInt8} :
    ∀ z ∈ addrInts addr, InInt z := by
  intro z hz
  simp only [addrInts, List.mem_cons, List.not_mem_nil, or_false] at hz
  rcases hz with rfl | rfl | rfl | rfl <;> exact inInt_byte _

/-- What the four numbers take is less than `INET_ADDRSTRLEN`. -/
theorem length_dotted_lt (addr : UInt8 × UInt8 × UInt8 × UInt8) :
    (dotted.print (addrInts addr)).length < 16 := by
  have hb : ∀ b : UInt8, (decimal b.toNat).length ≤ 3 := fun b =>
    (decimal_length_le_iff (by decide)).mpr (Nat.lt_trans b.toNat_lt (by decide))
  obtain ⟨a, b, c, d⟩ := addr
  have hlen : (dotted.print (addrInts (a, b, c, d))).length =
      (decimal a.toNat).length + (1 + ((decimal b.toNat).length + (1 +
        ((decimal c.toNat).length + (1 + (decimal d.toNat).length))))) := by
    simp only [dotted, Format.print, addrInts, printTail, List.nil_append, List.append_nil,
      List.length_append]
    rfl
  have ha := hb a
  have hb' := hb b
  have hc := hb c
  have hd := hb d
  omega

/-- **The address `get_lan_ip` leaves.** -/
theorem getLanIp_eq (ifs : Option (List Ifaddrs)) :
    getLanIp ifs 64 = dotted.print (addrInts (shownAddr ifs)) := by
  rw [getLanIp, shownAddr]
  cases ifs.bind lanAddr with
  | none => rfl
  | some addr =>
      obtain ⟨a, b, c, d⟩ := addr
      have htext : decimal a.toNat ++ bytes "." ++ decimal b.toNat ++ bytes "." ++
          decimal c.toNat ++ bytes "." ++ decimal d.toNat =
            dotted.print (addrInts (a, b, c, d)) := by
        simp only [dotted, Format.print, addrInts, printTail, List.nil_append, List.append_nil,
          List.append_assoc]
        rfl
      have hlt := length_dotted_lt (a, b, c, d)
      simp only [inetNtop, htext]
      exact if_pos (Nat.lt_trans hlt (by decide))

/-- **The URL is a format of the address and the port.** -/
theorem url_eq (addr : UInt8 × UInt8 × UInt8 × UInt8) (port : Int) :
    bytes "ws://" ++ dotted.print (addrInts addr) ++ bytes ":" ++ decimalInt port =
      urlFormat.print (addrInts addr ++ [port]) := by
  simp only [dotted, urlFormat, Format.print, addrInts, List.cons_append, List.nil_append,
    printTail, List.append_nil, List.append_assoc]

/-! ### A session -/

/-- What `nearcade_init` leaves of the session for others to read. -/
structure Session (addr : UInt8 × UInt8 × UInt8 × UInt8) (port : Int) (s : State) : Prop where
  lanIp : s.g.lanIp = dotted.print (addrInts addr)
  port : s.sig.gPort = port
  pin : ∃ n, 1000 ≤ n ∧ n ≤ 9999 ∧ s.g.pin = decimal n

theorem generatePin_digits (rand : Nat) :
    ∃ n, 1000 ≤ n ∧ n ≤ 9999 ∧ generatePin rand = decimal n :=
  ⟨1000 + rand % 9000, by omega, by omega, rfl⟩

/-- The start of a session. -/
theorem Session.init {ifs : Option (List Ifaddrs)} {config : Option NearcadeConfig} {e : InitEnv}
    {w : Capture.Waits} {s : State} (hip : e.lanIp = getLanIp ifs 64)
    (hok : (nearcadeInit config e w s).1 = .ok) :
    Session (shownAddr ifs) (normaliseConfig config).port (nearcadeInit config e w s).2.1 := by
  obtain ⟨wsi, hs⟩ := Signaling.signalingInit_eq (normaliseConfig config).port e.ctx e.thread
    (Signaling.setInternalCallbacks s.sig)
  rw [nearcadeInit_ok hok]
  refine ⟨hip.trans (getLanIp_eq ifs), ?_, generatePin_digits e.rand⟩
  simp only [broughtUp, initSignaling]
  rw [hs]

/-- A step other than `nearcade_init`. -/
def Input.KeepsSession : Input → Prop
  | .call (.init ..) => False
  | _ => True

section
variable {ov : Int → Int} {addr : UInt8 × UInt8 × UInt8 × UInt8} {port : Int}

/-- A call that leaves the address, the PIN and the signaling module alone. -/
theorem Session.of_eq {s s' : State} (h : Session addr port s) (hip : s'.g.lanIp = s.g.lanIp)
    (hpin : s'.g.pin = s.g.pin) (hsig : s'.sig.gPort = s.sig.gPort) : Session addr port s' where
  lanIp := hip.trans h.lanIp
  port := hsig.trans h.port
  pin := by rw [hpin]; exact h.pin

/-- **A call keeps the session**, `nearcade_init` apart: `nearcade_regenerate_pin` makes another PIN
of four digits. -/
theorem Session.call {s : State} (h : Session addr port s) {c : Call}
    (hc : Input.KeepsSession (.call c)) : Session addr port (c.run ov s).1 := by
  cases c with
  | init config e w => exact hc.elim
  | regeneratePin rand => exact ⟨h.lanIp, h.port, generatePin_digits rand⟩
  | shutdown w =>
      simp only [Call.run, nearcadeShutdown]
      split
      · exact h
      · exact h.of_eq rfl rfl rfl
  | startCapture pid =>
      obtain ⟨cap, capturing, e⟩ := startCapture_eq pid s
      rw [Call.run, e]
      exact h.of_eq rfl rfl rfl
  | stopCapture w =>
      obtain ⟨cap, capturing, e⟩ := stopCapture_eq w s
      rw [Call.run, e]
      exact h.of_eq rfl rfl rfl
  | disconnectViewer id =>
      cases id with
      | none => exact h
      | some id =>
          simp only [Call.run, nearcadeDisconnectViewer]
          split
          · exact h
          · exact h.of_eq rfl rfl rfl
  | setViewerInputMode id mode =>
      obtain ⟨viewers, e⟩ := setViewer_eq s.g id fun v => { v with mode := mode }
      rw [Call.run, nearcadeSetViewerInputMode, e]
      exact h.of_eq rfl rfl rfl
  | setControllerType id ctrl =>
      obtain ⟨viewers, e⟩ := setViewer_eq s.g id fun v => { v with ctrlType := ctrl }
      rw [Call.run, nearcadeSetControllerType, e]
      exact h.of_eq rfl rfl rfl
  | startStreaming | stopStreaming | setEventCallback _ _ | pollEvents _
  | sendH264 _ _ | sendFrame _ _ _ _ | submitGamepad _ | submitKbm _ _ _ _ _ | flushSlot _
  | getSignalingUrl _ | getLanIp _ | getPin _ | sendOffer _ _ | sendAnswer _ _ _
  | sendIceCandidate _ _ _ => exact h.of_eq rfl rfl rfl

theorem gPort_callViewerCb (s : State) (idx : Option (Fin maxViewers)) (joined : Bool) :
    (callViewerCb s idx joined).sig.gPort = s.sig.gPort := by
  obtain ⟨rtc, e⟩ := callViewerCb_eq s idx joined
  rw [e]

/-- A callback does not touch the port. -/
theorem Net.gPort (s : State) (n : Net) : (n.run ov s).1.sig.gPort = s.sig.gPort := by
  cases n with
  | established wsi uri stack =>
      obtain ⟨host, ws, n, e⟩ :=
        Signaling.established_tables s.sig wsi (Signaling.lwsHdrCopy uri stack)
      have hp : (Signaling.established s.sig wsi (Signaling.lwsHdrCopy uri stack)).1.gPort =
          s.sig.gPort := by rw [e]
      exact (gPort_callViewerCb
        { s with sig := (Signaling.established s.sig wsi _).1 } _ true).trans
        hp
  | closed wsi =>
      obtain ⟨host, ws, n, e⟩ := Signaling.closed_tables s.sig wsi
      have hp : (Signaling.closed s.sig wsi).1.gPort = s.sig.gPort := by rw [e]
      exact (gPort_callViewerCb { s with sig := (Signaling.closed s.sig wsi).1 } _ false).trans hp
  | receive _ _ _ | stateChange _ _ | localDescription _ _ _ _ | localCandidate _ _ _
  | message _ _ => rfl

theorem Session.net {s : State} (h : Session addr port s) (n : Net) :
    Session addr port (n.run ov s).1 := by
  have hg : (n.run ov s).1.g = s.g := (Net.frame s n).1
  exact h.of_eq (congrArg NearcadeState.lanIp hg) (congrArg NearcadeState.pin hg) (Net.gPort s n)

theorem Session.final {w : World} (h : Session addr port w.sdk) {is : List Input}
    (his : ∀ i ∈ is, i.KeepsSession) : Session addr port ((system ov).final w is).sdk := by
  induction is generalizing w with
  | nil => exact h
  | cons i is ih =>
      have hi := his i (List.mem_cons_self ..)
      refine ih (w := (system ov).next w i) ?_ fun j hj => his j (List.mem_cons_of_mem _ hj)
      cases i with
      | call c => exact h.call hi
      | net n => exact h.net n

end

/-! ### What the script reads -/

namespace Godot

/-- A text that fits is read whole. -/
theorem getString_copyOut {value : Bytes} (h0 : 0 ∉ value) {size : Nat}
    (hlen : value.length < size) : getString size (copyOut value) = value := by
  have hbuf : List.replicate size (0 : UInt8) ≠ [] := fun h => by
    have hsize := congrArg List.length h
    rw [List.length_replicate, List.length_nil] at hsize
    omega
  rw [getString, copyOut_eq value _ hbuf, List.length_replicate, strncpy_zeros (Nat.sub_le _ _),
    List.take_of_length_le (by omega)]
  exact cstr_padded h0 _

theorem nul_notMem_dotted (zs : List Int) : 0 ∉ dotted.print zs :=
  nul_notMem_printTail (by decide) zs

/-- A script reads the address, a URL that gives the address and the port back, and a PIN of four
digits. -/
structure Shows (ov : Int → Int) (addr : UInt8 × UInt8 × UInt8 × UInt8) (port : Int)
    (s : State) : Prop where
  lanIp : Godot.getLanIp s = dotted.print (addrInts addr)
  url : urlFormat.scan ov (Godot.getSignalingUrl s) = some (addrInts addr ++ [port])
  pin : ∃ n, 1000 ≤ n ∧ n ≤ 9999 ∧ Godot.getPin s = decimal n

/-- **What a script reads.** -/
theorem shows_of_session {addr : UInt8 × UInt8 × UInt8 × UInt8} {port : Int} {s : State}
    (h : Session addr port s) (hport : InInt port) (ov : Int → Int) : Shows ov addr port s := by
  have hlen := length_dotted_lt addr
  refine ⟨?_, ?_, ?_⟩
  · have hg : Godot.getLanIp s = getString 64 (copyOut s.g.lanIp) := rfl
    rw [hg, h.lanIp]
    exact getString_copyOut (nul_notMem_dotted _) (Nat.lt_trans hlen (by decide))
  · -- thirty-one bytes at most, in a buffer of 256
    have hurl : snprintf 256 (urlFormat.print (addrInts addr ++ [port])) =
        urlFormat.print (addrInts addr ++ [port]) := by
      rw [snprintf_eq_iff, ← url_eq]
      simp only [List.length_append]
      have hp := length_decimalInt_le hport
      have h₁ : (bytes "ws://").length = 5 := rfl
      have h₂ : (bytes ":").length = 1 := rfl
      omega
    have h0 : 0 ∉ urlFormat.print (addrInts addr ++ [port]) := by
      refine fun hm => (List.mem_append.mp hm).elim (fun h => absurd h (by decide)) ?_
      exact nul_notMem_printTail (by decide) _
    have hg : Godot.getSignalingUrl s = urlFormat.print (addrInts addr ++ [port]) := by
      simp only [Godot.getSignalingUrl, getString, nearcadeGetSignalingUrl,
        Signaling.signalingGetUrl, List.length_replicate]
      rw [if_neg (by decide), h.lanIp, h.port, url_eq, hurl]
      exact cstr_terminated h0 _
    rw [hg]
    refine urlFormat.scan_print ov separated_urlFormat rfl fun z hz => ?_
    rcases List.mem_append.mp hz with hz | hz
    · exact inInt_addrInts z hz
    · rw [List.mem_singleton.mp hz]
      exact hport
  · obtain ⟨n, hlow, hhigh, hpin⟩ := h.pin
    refine ⟨n, hlow, hhigh, ?_⟩
    have hg : Godot.getPin s = getString 8 (copyOut s.g.pin) := rfl
    have hdigits : (decimal n).length ≤ 4 := (decimal_length_le_iff (by decide)).mpr (by omega)
    rw [hg, hpin]
    have h0 : 0 ∉ decimal n := nul_notMem_decimalInt (n : Int)
    exact getString_copyOut h0 (by omega)

/-- **What a script is shown of its session.**  After a successful `nearcade_init`, whatever is
called (another `nearcade_init` apart) and whatever the network does. -/
theorem session_shown (ov ov' : Int → Int) {ifs : Option (List Ifaddrs)}
    {config : Option NearcadeConfig} {e : InitEnv} {waits : Capture.Waits} {s : State}
    (hip : e.lanIp = Nearcade.getLanIp ifs 64) (hok : (nearcadeInit config e waits s).1 = .ok)
    (hport : InInt (config.getD .default).port) (live : Finset Wsi) {is : List Nearcade.Input}
    (his : ∀ i ∈ is, i.KeepsSession) :
    Shows ov' (shownAddr ifs) (normaliseConfig config).port
      ((system ov).final ⟨(nearcadeInit config e waits s).2.1, live⟩ is).sdk := by
  have hinit : Session (shownAddr ifs) (normaliseConfig config).port
      (World.sdk ⟨(nearcadeInit config e waits s).2.1, live⟩) := Session.init hip hok
  have hin : InInt (normaliseConfig config).port := by
    simp only [normaliseConfig]
    split
    · decide
    · exact hport
  exact shows_of_session (hinit.final his) hin ov'

/-- The interfaces of a host: the loopback, one without an IPv4 address, and one with. -/
def hostIfs : Option (List Ifaddrs) :=
  some [⟨some (127, 0, 0, 1), true⟩, ⟨none, false⟩, ⟨some (192, 168, 1, 20), false⟩]

theorem session_shown_host :
    Shows id (shownAddr hostIfs) (normaliseConfig none).port
      ((system id).final
        ⟨(nearcadeInit none { InitEnv.good with lanIp := Nearcade.getLanIp hostIfs 64 } ⟨0, 0⟩
          .boot).2.1, ∅⟩ [connect 7, .call (.regeneratePin 8), .call (.shutdown ⟨0, 0⟩)]).sdk :=
  session_shown id id rfl (by decide +kernel) (by decide) ∅
    (List.forall_mem_cons.mpr ⟨trivial, List.forall_mem_cons.mpr
      ⟨trivial, List.forall_mem_cons.mpr ⟨trivial, List.forall_mem_nil _⟩⟩⟩)

end Godot

end Nearcade
