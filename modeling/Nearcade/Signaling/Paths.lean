import Nearcade.Signaling.Table

/-!
# Signaling — Paths

Which connections become the host.  `LWS_CALLBACK_ESTABLISHED` looks for `/host` anywhere in its
buffer, which holds the path of the request if that fits 256 bytes, and is not written if it does
not.

* `classified_iff`: a path is classified by its first segment just when it fits, and has no `/host`
  unless its first segment is `host`.
-/

namespace Nearcade.Signaling
open Text Runs

/-- The first segment of a path: what stands between its first slash and the next. -/
def firstSegment (uri : Bytes) : Bytes :=
  match uri with
  | 47 :: path => path.takeWhile (· ≠ 47)
  | path => path.takeWhile (· ≠ 47)

/-- A new connection with this path becomes the host only if the first segment is `host`, and is a
viewer if that is `viewer`; and the buffer's earlier contents do not matter. -/
structure Classified (uri : Bytes) : Prop where
  host : ∀ w wsi stack, server.Reachable .boot w → server.enabled w (.established wsi uri stack) →
    (server.next w (.established wsi uri stack)).st.gHostWs = some wsi →
      firstSegment uri = bytes "host"
  viewer : ∀ w wsi stack, server.Reachable .boot w →
    server.enabled w (.established wsi uri stack) → firstSegment uri = bytes "viewer" →
      (server.next w (.established wsi uri stack)).st = (storeViewer w.st wsi).1
  alone : ∀ w wsi stack stack', server.Reachable .boot w →
    server.enabled w (.established wsi uri stack) →
      server.next w (.established wsi uri stack) = server.next w (.established wsi uri stack')

theorem isHost_iff {uri : Bytes} : IsHost uri ↔ bytes "/host" <:+: uri := strstr_isSome_iff

/-- A path that fits is what the buffer holds, whatever was there. -/
theorem lwsHdrCopy_of_lt {uri : Bytes} (h : uri.length < 256) (stack : Bytes) :
    lwsHdrCopy uri stack = uri := if_pos h

/-- A new connection that becomes the host asked for it. -/
theorem isHost_of_becomes {w : Server} (hr : server.Reachable .boot w) {wsi : Wsi} {uri : Bytes}
    (hw : wsi ∉ w.live) (h : (established w.st wsi uri).1.gHostWs = some wsi) : IsHost uri := by
  by_contra hn
  -- a new connection is not the host before
  have hold : w.st.gHostWs ≠ some wsi := fun e =>
    hw ((tableInv_of_reachable hr).host wsi e).1
  rcases established_cases w.st wsi uri with ⟨hh, -⟩ | ⟨-, i, -, -, e⟩ | ⟨-, -, e⟩
  · exact hn hh
  · rw [e] at h
    exact hold h
  · rw [e] at h
    exact hold h

/-- **When a path is classified by its first segment.** -/
theorem classified_iff (uri : Bytes) :
    Classified uri ↔ uri.length < 256 ∧
      (bytes "/host" <:+: uri → firstSegment uri = bytes "host") := by
  have hnew : ∀ stack, server.enabled .boot (.established 1 uri stack) := fun _ =>
    Finset.notMem_empty 1
  constructor
  · intro h
    have hlen : uri.length < 256 := by
      by_contra hn
      -- the buffer keeps what was there
      have hkeep : ∀ stack, lwsHdrCopy uri stack = cstr stack := fun _ => if_neg hn
      have he := h.alone .boot 1 (bytes "/host") [] (.refl _) (hnew _)
      have h₁ : (server.next .boot (.established 1 uri (bytes "/host"))).st.gHostWs = some 1 := by
        simp only [server, hkeep]
        decide +kernel
      have h₂ : (server.next .boot (.established 1 uri [])).st.gHostWs = none := by
        simp only [server, hkeep]
        decide +kernel
      rw [he, h₂] at h₁
      cases h₁
    refine ⟨hlen, fun hh => h.host .boot 1 [] (.refl _) (hnew _) ?_⟩
    simp only [server, lwsHdrCopy_of_lt hlen, established_eq, if_pos (isHost_iff.mpr hh)]
  · rintro ⟨hlen, hseg⟩
    refine ⟨fun w wsi stack hr hw h => ?_, fun w wsi stack hr hw hv => ?_,
      fun w wsi stack stack' hr hw => ?_⟩
    · simp only [server, lwsHdrCopy_of_lt hlen] at h
      exact hseg (isHost_iff.mp (isHost_of_becomes hr hw h))
    · have hn : ¬ IsHost uri := fun hh => by
        rw [hseg (isHost_iff.mp hh)] at hv
        exact absurd hv (by decide)
      simp only [server, lwsHdrCopy_of_lt hlen, established_eq, if_neg hn]
    · simp only [server, lwsHdrCopy_of_lt hlen]

/-- A viewer's path with `/host` further on makes its connection the host. -/
theorem viewer_path_becomes_host :
    firstSegment (bytes "/viewer/host") = bytes "viewer" ∧
      (server.next .boot (.established 1 (bytes "/viewer/host") [])).st.gHostWs = some 1 ∧
      ¬ Classified (bytes "/viewer/host") := by
  have hseg : firstSegment (bytes "/viewer/host") = bytes "viewer" := by decide
  have hhost : (server.next .boot (.established 1 (bytes "/viewer/host") [])).st.gHostWs =
      some 1 := by decide +kernel
  refine ⟨hseg, hhost, fun h => ?_⟩
  have := h.host .boot 1 [] (.refl _) (Finset.notMem_empty 1) hhost
  rw [hseg] at this
  exact absurd this (by decide)

end Nearcade.Signaling
