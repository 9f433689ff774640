import Nearcade.Source.Capture
import Nearcade.System.Invariants

/-!
# Lifecycle — Encoder

The child that `capture_start` forks prints four texts for FFmpeg from the stored configuration:
the picture size, the bit rate in thousands, the frame rate and twice the frame rate.  The last two
go into buffers of eight bytes.

`nearcade_init` puts a port and a picture size in the place of values that are not positive.  The
frame rate and the bit rate pass as they come.

* `args_res`, `args_br`, `args_fpsStr`, `args_gopStr`: when each text is whole.
* `exact_iff`: when all four are what they should be.
-/

namespace Nearcade
open Text Capture

/-- The fields the encoder is started with hold values of `int`. -/
structure NearcadeConfig.Ints (c : NearcadeConfig) : Prop where
  width : InInt c.screenWidth
  height : InInt c.screenHeight
  bitrate : InInt c.maxBitrate
  fps : InInt c.fps

/-- The arguments are the whole texts of the intended quantities, which are positive, and twice the
frame rate is a value of `int`. -/
structure Exact (cfg : NearcadeConfig) (a : EncoderArgs) : Prop where
  res : a.res = decimalInt cfg.screenWidth ++ bytes "x" ++ decimalInt cfg.screenHeight
  br : a.br = decimalInt (cfg.maxBitrate.tdiv 1000) ++ bytes "k"
  fpsStr : a.fpsStr = decimalInt cfg.fps
  gop : InInt (2 * cfg.fps)
  gopStr : a.gopStr = decimalInt (2 * cfg.fps)
  width_pos : 0 < cfg.screenWidth
  height_pos : 0 < cfg.screenHeight
  bitrate_pos : 0 < cfg.maxBitrate.tdiv 1000
  fps_pos : 0 < cfg.fps
  gop_pos : 0 < 2 * cfg.fps

/-! ### The configuration that is stored -/

/-- A size that is not positive is replaced by one that is. -/
theorem replaced_pos {z d : Int} (hd : 0 < d) : 0 < (if z ≤ 0 then d else z) := by
  split
  · exact hd
  · rename_i h
    exact Int.not_le.mp h

theorem inInt_replaced {z d : Int} (hz : InInt z) (hd : InInt d) :
    InInt (if z ≤ 0 then d else z) := by
  split
  · exact hd
  · exact hz

theorem normaliseConfig_size_pos (config : Option NearcadeConfig) :
    0 < (normaliseConfig config).screenWidth ∧ 0 < (normaliseConfig config).screenHeight :=
  ⟨replaced_pos (by decide), replaced_pos (by decide)⟩

theorem normaliseConfig_ints {config : Option NearcadeConfig}
    (h : (config.getD .default).Ints) : (normaliseConfig config).Ints :=
  ⟨inInt_replaced h.width (by decide), inInt_replaced h.height (by decide), h.bitrate, h.fps⟩

/-! ### The texts -/

/-- `%d` of a positive `int` has ten digits at most. -/
theorem decimalInt_length_le_ten {z : Int} (hz : InInt z) (hpos : 0 < z) :
    (decimalInt z).length ≤ 10 := by
  refine (decimalInt_length_le_iff (Int.le_of_lt hpos) (by decide)).mpr ?_
  have hmax := hz.2
  omega

/-- A bit rate that is positive in thousands. -/
theorem bitrate_pos_iff {z : Int} : 0 < z.tdiv 1000 ↔ 1000 ≤ z := by
  rcases Int.le_total 0 z with hz | hz
  · rw [Int.tdiv_eq_ediv_of_nonneg hz]
    omega
  · -- division truncates towards zero
    have hneg := Int.tdiv_nonneg (Int.neg_nonneg_of_nonpos hz) (by decide : (0 : Int) ≤ 1000)
    rw [Int.neg_tdiv] at hneg
    omega

section
variable {ov : Int → Int} {cfg : NearcadeConfig}

/-- Two positive sizes fit. -/
theorem args_res (hc : cfg.Ints) (hw : 0 < cfg.screenWidth) (hh : 0 < cfg.screenHeight) :
    (encoderArgs ov cfg).res =
      decimalInt cfg.screenWidth ++ bytes "x" ++ decimalInt cfg.screenHeight := by
  refine snprintf_eq_iff.mpr ?_
  have hx : (bytes "x").length = 1 := rfl
  have hlw := decimalInt_length_le_ten hc.width hw
  have hlh := decimalInt_length_le_ten hc.height hh
  rw [List.length_append, List.length_append, hx]
  omega

/-- A positive bit rate fits. -/
theorem args_br (hc : cfg.Ints) (hb : 0 < cfg.maxBitrate.tdiv 1000) :
    (encoderArgs ov cfg).br = decimalInt (cfg.maxBitrate.tdiv 1000) ++ bytes "k" := by
  refine snprintf_eq_iff.mpr ?_
  have hk : (bytes "k").length = 1 := rfl
  have hrate := bitrate_pos_iff.mp hb
  have hin : InInt (cfg.maxBitrate.tdiv 1000) := by
    have hmax := hc.bitrate.2
    rw [Int.tdiv_eq_ediv_of_nonneg (by omega)]
    exact ⟨by omega, by omega⟩
  have hl := decimalInt_length_le_ten hin hb
  rw [List.length_append, hk]
  omega

/-- A positive frame rate fits in eight bytes when it has seven digits at most. -/
theorem args_fpsStr (hpos : 0 < cfg.fps) :
    (encoderArgs ov cfg).fpsStr = decimalInt cfg.fps ↔ cfg.fps < 10000000 :=
  snprintf_eq_iff.trans (decimalInt_length_le_iff (Int.le_of_lt hpos) (by decide))

/-- Twice a positive frame rate does when the frame rate is below five million. -/
theorem args_gopStr (hpos : 0 < cfg.fps) (hgop : InInt (2 * cfg.fps)) :
    (encoderArgs ov cfg).gopStr = decimalInt (2 * cfg.fps) ↔ cfg.fps < 5000000 := by
  have hmul : mulInt ov cfg.fps 2 = 2 * cfg.fps := by
    rw [mulInt, Int.mul_comm, if_pos hgop]
  have hdouble : 2 * cfg.fps < 10 ^ 7 ↔ cfg.fps < 5000000 := by omega
  simp only [encoderArgs, hmul]
  exact (snprintf_eq_iff.trans (decimalInt_length_le_iff (by omega) (by decide))).trans hdouble

end

/-- **When the encoder arguments are exact.**  For every configuration that `nearcade_init`
accepts, the arguments that `capture_start` prints from what is stored are exact just when the
frame rate is positive and below five million and the bit rate is a thousand at least. -/
theorem exact_iff {ov : Int → Int} {config : Option NearcadeConfig} {e : InitEnv}
    {w : Capture.Waits} {s : State} (hok : (nearcadeInit config e w s).1 = .ok)
    (hints : (config.getD .default).Ints) :
    Exact (nearcadeInit config e w s).2.1.g.config
        (encoderArgs ov (nearcadeInit config e w s).2.1.g.config) ↔
      0 < (config.getD .default).fps ∧ (config.getD .default).fps < 5000000 ∧
        1000 ≤ (config.getD .default).maxBitrate := by
  have hcfg : (nearcadeInit config e w s).2.1.g.config = normaliseConfig config := by
    rw [nearcadeInit_ok hok]
    rfl
  have hfps : (normaliseConfig config).fps = (config.getD .default).fps := rfl
  have hbr : (normaliseConfig config).maxBitrate = (config.getD .default).maxBitrate := rfl
  have hsize := normaliseConfig_size_pos config
  have hc := normaliseConfig_ints hints
  rw [hcfg, ← hfps, ← hbr]
  constructor
  · intro h
    exact ⟨h.fps_pos, (args_gopStr h.fps_pos h.gop).mp h.gopStr, bitrate_pos_iff.mp h.bitrate_pos⟩
  · rintro ⟨hpos, hlt, hrate⟩
    have hbpos := bitrate_pos_iff.mpr hrate
    have hgop : InInt (2 * (normaliseConfig config).fps) := ⟨by omega, by omega⟩
    exact {
      res := args_res hc hsize.1 hsize.2
      br := args_br hc hbpos
      fpsStr := (args_fpsStr hpos).mpr (by omega)
      gop := hgop
      gopStr := (args_gopStr hpos hgop).mpr hlt
      width_pos := hsize.1
      height_pos := hsize.2
      bitrate_pos := hbpos
      fps_pos := hpos
      gop_pos := by omega }

/-- A frame rate of zero is stored as it is. -/
theorem zero_fps_not_exact : ¬∀ (ov : Int → Int) (config : Option NearcadeConfig) (e : InitEnv)
    (w : Capture.Waits) (s : State), (nearcadeInit config e w s).1 = .ok →
      (config.getD .default).Ints →
      Exact (nearcadeInit config e w s).2.1.g.config
        (encoderArgs ov (nearcadeInit config e w s).2.1.g.config) := by
  intro h
  have hexact := h id (some { NearcadeConfig.default with fps := 0 }) .good ⟨0, 0⟩ .boot
    (by decide +kernel) ⟨by decide, by decide, by decide, by decide⟩
  exact absurd hexact.fps_pos (by decide +kernel)

theorem exact_iff_default :
    Exact (nearcadeInit none .good ⟨0, 0⟩ .boot).2.1.g.config
        (encoderArgs id (nearcadeInit none .good ⟨0, 0⟩ .boot).2.1.g.config) ↔
      0 < (Option.getD none NearcadeConfig.default).fps ∧
        (Option.getD none NearcadeConfig.default).fps < 5000000 ∧
        1000 ≤ (Option.getD none NearcadeConfig.default).maxBitrate :=
  exact_iff (by decide +kernel) ⟨by decide, by decide, by decide, by decide⟩

end Nearcade
