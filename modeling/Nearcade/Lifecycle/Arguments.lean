import Nearcade.Lifecycle.Encoder
import Nearcade.Support.Format

/-!
# Lifecycle — Arguments

The command line that the child of `capture_start` becomes, read as FFmpeg reads it: `-hide_banner`
stands alone, every other option takes the argument after it, and the last argument is the output.

* `config_final`: the configuration in `g_state` is the one of the last `nearcade_init`, whatever
  was called since.
* `options_ffmpegArgv`: both command lines pass the four texts under their options.
* `child_configured`: so the numbers FFmpeg reads are those of the last `nearcade_init`.
-/

namespace Nearcade
open Text Runs Capture

/-! ### The configuration after a run -/

/-- The configuration that is passed to `nearcade_init`. -/
def Input.configures : Input → Option (Option NearcadeConfig)
  | .call (.init config _ _) => some config
  | _ => none

/-- The last one of a run. -/
def lastInit (is : List Input) : Option (Option NearcadeConfig) :=
  (is.filterMap Input.configures).getLast?

theorem setViewer_config (g : NearcadeState) (id : Option Bytes) (f : ViewerInfo → ViewerInfo) :
    (setViewer g id f).2.config = g.config := by
  obtain ⟨viewers, e⟩ := setViewer_eq g id f
  rw [e]

/-- A configuration stays until the next `nearcade_init`, which stores another even where it
fails. -/
theorem config_next (ov : Int → Int) (w : World) (i : Input) :
    ((system ov).next w i).sdk.g.config =
      (i.configures.map normaliseConfig).getD w.sdk.g.config := by
  cases i with
  | net n => exact congrArg NearcadeState.config (Net.frame w.sdk n).1
  | call c =>
      cases c with
      | init config e v =>
          simp only [system, Call.run]
          rcases nearcadeInit_cases config e v w.sdk with
            ⟨-, h⟩ | ⟨-, -, h⟩ | ⟨-, -, -, h⟩ | ⟨-, -, -, h⟩ <;> rw [h] <;> rfl
      | shutdown v =>
          simp only [system, Call.run, nearcadeShutdown]
          split <;> rfl
      | startCapture pid =>
          obtain ⟨cap, capturing, e⟩ := startCapture_eq pid w.sdk
          simp only [system, Call.run, e]
          rfl
      | stopCapture v =>
          obtain ⟨cap, capturing, e⟩ := stopCapture_eq v w.sdk
          simp only [system, Call.run, e]
          rfl
      | disconnectViewer id =>
          cases id with
          | none => rfl
          | some id =>
              simp only [system, Call.run, nearcadeDisconnectViewer]
              split <;> rfl
      | setViewerInputMode id mode | setControllerType id ctrl =>
          exact setViewer_config w.sdk.g id _
      | _ => rfl

theorem config_final (ov : Int → Int) (w : World) (is : List Input) :
    ((system ov).final w is).sdk.g.config =
      ((lastInit is).map normaliseConfig).getD w.sdk.g.config := by
  induction is using List.reverseRecOn with
  | nil => rfl
  | append_singleton is i ih =>
      rw [Machine.final_append, Machine.final, Machine.final, config_next, ih, lastInit, lastInit,
        List.filterMap_append]
      cases hc : i.configures with
      | none => simp [hc]
      | some config => simp [hc]

/-! ### The command line -/

/-- The options of a command line, with their arguments. -/
def options : List Bytes → List (Bytes × Bytes)
  | name :: arg :: rest =>
      if name = bytes "-hide_banner" then options (arg :: rest) else (name, arg) :: options rest
  | _ => []

/-- The argument of an option. -/
def argOf (argv : List Bytes) (name : String) : Option Bytes :=
  (options argv.tail).lookup (bytes name)

/-- **Both command lines** pass the same texts under the same options. -/
theorem options_ffmpegArgv (ov : Int → Int) (cfg : NearcadeConfig) (popen : Option Bytes) :
    let argv := ffmpegArgv ov cfg popen
    let a := encoderArgs ov cfg
    argOf argv "-video_size" = some a.res ∧ argOf argv "-b:v" = some a.br ∧
      argOf argv "-framerate" = some a.fpsStr ∧ argOf argv "-g" = some a.gopStr := by
  intro argv a
  cases hv : detectVaapi popen with
  | some device =>
      simp only [argv, ffmpegArgv, hv]
      exact ⟨rfl, rfl, rfl, rfl⟩
  | none =>
      simp only [argv, ffmpegArgv, hv]
      exact ⟨rfl, rfl, rfl, rfl⟩

/-! ### What FFmpeg reads -/

/-- A number, with a unit behind it. -/
def quantity (unit : Bytes) : Format := ⟨[], [unit]⟩

/-- Two numbers, with an `x` between them. -/
def picture : Format := ⟨[], [bytes "x", []]⟩

/-- The numbers under the four options are those of a configuration. -/
structure Configured (ov : Int → Int) (cfg : NearcadeConfig) (argv : List Bytes) : Prop where
  size : (argOf argv "-video_size").bind (picture.scan ov) =
    some [cfg.screenWidth, cfg.screenHeight]
  bitrate : (argOf argv "-b:v").bind ((quantity (bytes "k")).scan ov) =
    some [cfg.maxBitrate.tdiv 1000]
  rate : (argOf argv "-framerate").bind ((quantity []).scan ov) = some [cfg.fps]
  gop : (argOf argv "-g").bind ((quantity []).scan ov) = some [2 * cfg.fps]

/-- A quantity that was printed whole is read back. -/
theorem scan_quantity (ov : Int → Int) {unit : Bytes} (hu : NoDigit unit) {z : Int} (hz : InInt z) :
    (quantity unit).scan ov (decimalInt z ++ unit) = some [z] := by
  have hzs : ∀ y ∈ [z], InInt y := by simpa using hz
  have h := (quantity unit).scan_print ov hu rfl hzs
  rw [Format.print] at h
  simpa [quantity, printTail] using h

theorem scan_number (ov : Int → Int) {z : Int} (hz : InInt z) :
    (quantity []).scan ov (decimalInt z) = some [z] := by
  have h := scan_quantity ov noDigit_nil hz
  rwa [List.append_nil] at h

theorem scan_picture (ov : Int → Int) {w h : Int} (hw : InInt w) (hh : InInt h) :
    picture.scan ov (decimalInt w ++ bytes "x" ++ decimalInt h) = some [w, h] := by
  have hsep : Separated picture.seps := ⟨⟨by decide, noDigit_of_head rfl⟩, noDigit_nil⟩
  have hzs : ∀ z ∈ [w, h], InInt z := by simpa using ⟨hw, hh⟩
  have hs := picture.scan_print ov hsep rfl hzs
  rw [Format.print] at hs
  simpa [picture, printTail, List.append_assoc] using hs

/-- **The child is configured as the last `nearcade_init` asked.**  Whatever is called after it, and
whichever encoder the child finds, the options of the FFmpeg that `capture_start` starts read as the
picture size, the frame rate, twice the frame rate and the bit rate in thousands of that
configuration, where the frame rate is positive and below five million and the bit rate is a
thousand at least.  The width and the height are those `nearcade_init` stores: 1920 and 1080 where
the configuration's are not positive. -/
theorem child_configured (ov : Int → Int) {is : List Input} {config : Option NearcadeConfig}
    (hlast : lastInit is = some config) (hints : (config.getD .default).Ints)
    (hfps : 0 < (config.getD .default).fps ∧ (config.getD .default).fps < 5000000)
    (hbr : 1000 ≤ (config.getD .default).maxBitrate) (popen : Option Bytes) :
    Configured ov (normaliseConfig config)
      (ffmpegArgv ov ((system ov).final .boot is).sdk.g.config popen) := by
  have hcfg : ((system ov).final .boot is).sdk.g.config = normaliseConfig config := by
    rw [config_final, hlast]
    rfl
  have hsize := normaliseConfig_size_pos config
  have hc := normaliseConfig_ints hints
  have hpos : 0 < (normaliseConfig config).fps := hfps.1
  have hlt : (normaliseConfig config).fps < 5000000 := hfps.2
  have hrate : 0 < (normaliseConfig config).maxBitrate.tdiv 1000 := bitrate_pos_iff.mpr hbr
  have hgop : InInt (2 * (normaliseConfig config).fps) := ⟨by omega, by omega⟩
  have hk : InInt ((normaliseConfig config).maxBitrate.tdiv 1000) := by
    have hmin : 1000 ≤ (normaliseConfig config).maxBitrate := hbr
    have hmax := hc.bitrate.2
    rw [Int.tdiv_eq_ediv_of_nonneg (by omega)]
    exact ⟨by omega, by omega⟩
  obtain ⟨hres, hb, hf, hg⟩ := options_ffmpegArgv ov (normaliseConfig config) popen
  rw [hcfg]
  refine ⟨?_, ?_, ?_, ?_⟩
  · rw [hres, Option.bind_some, args_res hc hsize.1 hsize.2]
    exact scan_picture ov hc.width hc.height
  · rw [hb, Option.bind_some, args_br hc hrate]
    exact scan_quantity ov (noDigit_of_head rfl) hk
  · rw [hf, Option.bind_some, (args_fpsStr hpos).mpr (by omega)]
    exact scan_number ov hc.fps
  · rw [hg, Option.bind_some, (args_gopStr hpos hgop).mpr hlt]
    exact scan_number ov hgop

/-- The SDK starts, streams, and is stopped. -/
def streamRun : List Input :=
  [.call (.init none .good ⟨0, 0⟩), .call .startStreaming, .call (.shutdown ⟨0, 0⟩)]

theorem child_configured_stream :
    Configured id (normaliseConfig none)
      (ffmpegArgv id ((system id).final .boot streamRun).sdk.g.config (some (bytes "yes"))) :=
  child_configured id rfl ⟨by decide, by decide, by decide, by decide⟩ ⟨by decide, by decide⟩
    (by decide) _

end Nearcade
