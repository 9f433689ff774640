import Nearcade.Support.Json
import Nearcade.System.Machine

/-!
# Handshake — Outgoing

What a viewer gets when libdatachannel reports a local description or a local candidate.  The
two callbacks print the text into a fixed buffer between quotes, as it is, and send the buffer
only if nothing was cut (`send_printed`).

* `outgoing_faithful_iff`: the viewer gets one JSON object whose member is the reported text
  exactly when the text has no character that JSON wants escaped, the message fits the buffer,
  and there is memory to send it.

`signaling_send_offer` and its siblings escape the same texts before they print them.
-/

namespace Nearcade.Handshake
open Text

/-- The values of `rtc::Description::typeString`. -/
def typeStrings : List Bytes :=
  [bytes "unspec", bytes "offer", bytes "answer", bytes "pranswer", bytes "rollback"]

/-- An ASCII text. -/
def Ascii (t : Bytes) : Prop := ∀ c ∈ t, c < 128

instance (t : Bytes) : Decidable (Ascii t) := inferInstanceAs (Decidable (∀ c ∈ t, _))

theorem Ascii.append {t u : Bytes} (ht : Ascii t) (hu : Ascii u) : Ascii (t ++ u) := fun c hc =>
  (List.mem_append.mp hc).elim (ht c) (hu c)

/-- The code points of an ASCII text. -/
def asciiPoints (t : Bytes) : Json.Points := t.map UInt8.toNat

/-- `fx` sends one message, to `w`: a JSON object whose member `key` is the string `text`. -/
def SentFaithfully (fx : List Effect) (w : Wsi) (key : String) (text : Bytes) : Prop :=
  ∃ frame V, fx = [.lwsWrite w frame] ∧ Ascii frame ∧ Json.Element (asciiPoints frame) V ∧
    V.member (Json.points key) = some (.string (asciiPoints text))

/-- No byte of the text is a control character, a quote or a backslash. -/
def NeedsNoEscape (text : Bytes) : Prop := ∀ c ∈ text, 32 ≤ c ∧ c ≠ 34 ∧ c ≠ 92

instance (text : Bytes) : Decidable (NeedsNoEscape text) :=
  inferInstanceAs (Decidable (∀ c ∈ text, _))

theorem plain_asciiPoints_iff {text : Bytes} :
    Json.Plain (asciiPoints text) ↔ NeedsNoEscape text := by
  simp only [Json.Plain, asciiPoints, List.forall_mem_map, NeedsNoEscape, Json.Unescaped]
  refine forall₂_congr fun c _ => ?_
  have hlt := c.toNat_lt
  have h₁ : (c = 34) ↔ c.toNat = 34 := UInt8.toNat_inj (b := 34).symm
  have h₂ : (c = 92) ↔ c.toNat = 92 := UInt8.toNat_inj (b := 92).symm
  have h₃ : (32 ≤ c) ↔ 32 ≤ c.toNat := UInt8.le_iff_toNat_le
  simp only [ne_eq, h₁, h₂, h₃]
  omega

/-- What the callbacks print: two strings, of the members `type` and `key`. -/
def printed (type key text : Bytes) : Bytes :=
  bytes "\x7b\"type\":\"" ++ type ++
    (bytes "\",\"" ++ key ++ bytes "\":\"" ++ text ++ bytes "\"\x7d")

theorem length_printed (type key text : Bytes) :
    (printed type key text).length = type.length + key.length + text.length + 17 := by
  have h₁ : (bytes "\x7b\"type\":\"").length = 9 := by decide
  have h₂ : (bytes "\",\"").length = 3 := by decide
  have h₃ : (bytes "\":\"").length = 3 := by decide
  have h₄ : (bytes "\"\x7d").length = 2 := by decide
  simp only [printed, List.length_append, h₁, h₂, h₃, h₄]
  omega

theorem onLocalDescription_eq (st : Webrtc.State) (pc : PcId) (type sdp : Bytes) :
    Webrtc.onLocalDescription st pc type sdp =
      Webrtc.sendPrinted st pc 8192 (printed type (bytes "sdp") sdp) := by
  have h : bytes "\",\"sdp\":\"" = bytes "\",\"" ++ bytes "sdp" ++ bytes "\":\"" := by decide
  rw [Webrtc.onLocalDescription, h, printed]
  simp only [List.append_assoc]

theorem onLocalCandidate_eq (st : Webrtc.State) (pc : PcId) (cand : Bytes) :
    Webrtc.onLocalCandidate st pc cand =
      Webrtc.sendPrinted st pc 4096 (printed (bytes "ice") (bytes "candidate") cand) := by
  have h : bytes "\x7b\"type\":\"ice\",\"candidate\":\"" = bytes "\x7b\"type\":\"" ++ bytes "ice" ++
      (bytes "\",\"" ++ bytes "candidate" ++ bytes "\":\"") := by decide
  rw [Webrtc.onLocalCandidate, h, printed]
  simp only [List.append_assoc]

theorem asciiPoints_printed (type key text : Bytes) :
    asciiPoints (printed type key text) =
      Json.pairText (Json.points "type") (asciiPoints type) (asciiPoints key)
        (asciiPoints text) := by
  simp only [printed, asciiPoints, List.map_append, List.append_assoc, Json.pairText]
  rfl

theorem ascii_printed {type key text : Bytes} (htype : Ascii type) (hkey : Ascii key)
    (htext : Ascii text) : Ascii (printed type key text) :=
  (Ascii.append (by decide +kernel) htype).append
    ((((Ascii.append (by decide +kernel) hkey).append (by decide +kernel)).append htext).append
      (by decide +kernel))

/-- What the viewer of a session gets for a printed message that is not empty. -/
theorem sendPrinted_effects (ov : Int → Int) (io : Signaling.Io) (s : State) {pc : PcId}
    {i : Fin maxViewers} {w : Wsi} (hpc : s.rtc.captured pc = some (i.val : Int))
    (hw : s.sig.gViewerWs i = some w) (hcb : s.rtc.gSendCb = true) {size : Nat}
    (hsize : size ≤ 8192) {msg : Bytes} (hmsg : 0 < msg.length) :
    webrtcSendViaSignaling ov io s (Webrtc.sendPrinted s.rtc pc size msg) =
      if msg.length < size ∧ io.malloc = true then [.lwsWrite w msg] else [] := by
  simp only [Webrtc.sendPrinted, hpc, hcb, and_true]
  by_cases hl : msg.length < size
  · have hret : snprintfRet msg = msg.length := if_pos (by omega)
    have htake : snprintf size msg = msg := List.take_of_length_le (by omega)
    rw [if_pos (by rw [hret]; omega)]
    simp only [webrtcSendViaSignaling, Signaling.signalingSendToViewer,
      Signaling.viewerWsById_viewerId, hw, htake, Signaling.sendToLws]
    rw [if_neg (by omega)]
    cases io.malloc <;> simp [hl]
  · have hret : ¬ (0 < snprintfRet msg ∧ snprintfRet msg < size) := by
      rw [snprintfRet]
      split <;> omega
    rw [if_neg hret, if_neg (fun h => hl h.1)]
    rfl

/-- One message, of two strings, sent unless it is too long or memory is short. -/
theorem sentFaithfully_iff {w : Wsi} {type key : Bytes} {name : String} {text : Bytes}
    (hname : Json.points name = asciiPoints key) (htype : NeedsNoEscape type ∧ Ascii type)
    (hkey : NeedsNoEscape key ∧ Ascii key) (htext : Ascii text) {fits : Prop} [Decidable fits] :
    SentFaithfully (if fits then [.lwsWrite w (printed type key text)] else []) w name text ↔
      NeedsNoEscape text ∧ fits := by
  have hsmall : ∀ c ∈ asciiPoints text, c < 0x10000 := by
    intro c hc
    obtain ⟨b, -, rfl⟩ := List.mem_map.mp hc
    have := b.toNat_lt
    omega
  have hpair := Json.pairText_iff (show Json.Plain (Json.points "type") by decide)
    (plain_asciiPoints_iff.mpr htype.1) (plain_asciiPoints_iff.mpr hkey.1) hsmall
  rw [plain_asciiPoints_iff, ← asciiPoints_printed] at hpair
  rw [← hpair, SentFaithfully, hname]
  constructor
  · rintro ⟨frame, V, hf, -, hV⟩
    split at hf
    · rename_i h
      obtain rfl : printed type key text = frame := by simpa using hf
      exact ⟨⟨V, hV⟩, h⟩
    · cases hf
  · rintro ⟨⟨V, hV⟩, h⟩
    exact ⟨_, V, if_pos h, ascii_printed htype.2 hkey.2 htext, hV⟩

/-- **What a viewer gets of a local description and of a local candidate.** -/
theorem outgoing_faithful_iff (ov : Int → Int) (io : Signaling.Io) (s : State) {pc : PcId}
    {i : Fin maxViewers} {w : Wsi} (hpc : s.rtc.captured pc = some (i.val : Int))
    (hw : s.sig.gViewerWs i = some w) (hcb : s.rtc.gSendCb = true) {text : Bytes}
    (ha : ∀ c ∈ text, 0 < c ∧ c < 128) :
    (∀ type ∈ typeStrings,
      (SentFaithfully (Net.run ov s (.localDescription pc type text io)).2 w "sdp" text ↔
        NeedsNoEscape text ∧ type.length + text.length + 20 < 8192 ∧ io.malloc = true)) ∧
    (SentFaithfully (Net.run ov s (.localCandidate pc text io)).2 w "candidate" text ↔
      NeedsNoEscape text ∧ text.length + 29 < 4096 ∧ io.malloc = true) := by
  have htext : Ascii text := fun c hc => (ha c hc).2
  constructor
  · intro type ht
    have htype : NeedsNoEscape type ∧ Ascii type := by
      revert type
      decide +kernel
    have hlen : (printed type (bytes "sdp") text).length = type.length + text.length + 20 := by
      rw [length_printed, show (bytes "sdp").length = 3 by decide]
      omega
    have hrun : (Net.run ov s (.localDescription pc type text io)).2 = _ :=
      congrArg (webrtcSendViaSignaling ov io s) (onLocalDescription_eq s.rtc pc type text)
    rw [hrun, sendPrinted_effects ov io s hpc hw hcb (by omega) (by omega), hlen]
    exact sentFaithfully_iff rfl htype (by decide +kernel) htext
  · have hlen : (printed (bytes "ice") (bytes "candidate") text).length = text.length + 29 := by
      rw [length_printed, show (bytes "ice").length = 3 by decide,
        show (bytes "candidate").length = 9 by decide]
      omega
    have hrun : (Net.run ov s (.localCandidate pc text io)).2 = _ :=
      congrArg (webrtcSendViaSignaling ov io s) (onLocalCandidate_eq s.rtc pc text)
    rw [hrun, sendPrinted_effects ov io s hpc hw hcb (by omega) (by omega), hlen]
    exact sentFaithfully_iff rfl (by decide +kernel) (by decide +kernel) htext

theorem outgoing_faithful_iff_oneViewer :
    let s := World.oneViewer.sdk
    let text := bytes "candidate:1 1 UDP 2122317823 192.168.1.2 50000 typ host"
    (∀ type ∈ typeStrings,
      (SentFaithfully (Net.run id s (.localDescription 0 type text ⟨true, 0⟩)).2 7 "sdp" text ↔
        NeedsNoEscape text ∧ type.length + text.length + 20 < 8192 ∧ true = true)) ∧
    (SentFaithfully (Net.run id s (.localCandidate 0 text ⟨true, 0⟩)).2 7 "candidate" text ↔
      NeedsNoEscape text ∧ text.length + 29 < 4096 ∧ true = true) :=
  outgoing_faithful_iff id ⟨true, 0⟩ World.oneViewer.sdk (i := 0) (by decide +kernel)
    (by decide +kernel) (by decide +kernel) (by decide +kernel)

/-- A description with a line end, as every one has, reaches the viewer as a text that is no
JSON object of it. -/
theorem description_crlf_not_faithful :
    let w := World.oneViewer
    let text := bytes "v=0\r\n"
    (system id).enabled w (.net (.localDescription 0 (bytes "offer") text ⟨true, 0⟩)) ∧
      w.sdk.rtc.captured 0 = some 0 ∧ w.sdk.sig.gViewerWs 0 = some 7 ∧
      ¬ SentFaithfully
        ((system id).out w (.net (.localDescription 0 (bytes "offer") text ⟨true, 0⟩)))
        7 "sdp" text := by
  intro w text
  have hpc : w.sdk.rtc.captured 0 = some ((0 : Fin maxViewers).val : Int) := by decide +kernel
  have hw : w.sdk.sig.gViewerWs 0 = some 7 := by decide +kernel
  refine ⟨by decide +kernel, hpc, hw, fun h => ?_⟩
  have hrun : (system id).out w (.net (.localDescription 0 (bytes "offer") text ⟨true, 0⟩)) = _ :=
    congrArg (webrtcSendViaSignaling id ⟨true, 0⟩ w.sdk)
      (onLocalDescription_eq w.sdk.rtc 0 (bytes "offer") text)
  rw [hrun, sendPrinted_effects id ⟨true, 0⟩ w.sdk hpc hw (by decide +kernel) (by decide +kernel)
    (by decide +kernel), sentFaithfully_iff rfl (by decide +kernel) (by decide +kernel)
    (by decide +kernel)] at h
  exact absurd h.1 (by decide)

end Nearcade.Handshake
