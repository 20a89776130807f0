import LspRelay.Proofs.CanonicalFrames
import LspRelay.Proofs.Relaying

namespace LspRelay.Proofs.Chaining
open FirstFrame Streaming CanonicalFrames Relaying

/-- Two edits in a row: each body that the first makes goes through the second. -/
def chained (first second : Edit) : Edit := fun body =>
  let made := first body
  ⟨made.bodies.flatMap fun b => (second b).bodies,
    made.notes ++ made.bodies.flatMap fun b => (second b).notes⟩

variable {first second : Edit} {bytes rest : List UInt8} {frames : List Frame}

theorem sent_ofBody (edit : Edit) (bodies : List (List UInt8)) :
    sent edit (bodies.map Frame.ofBody) = bodies.flatMap fun b => (edit b).bodies := by
  rw [sent, List.flatMap_map]
  rfl

/-- What two edits in a row make of some frames is what the second makes of the first's. -/
theorem sent_chained (first second : Edit) (frames : List Frame) :
    sent (chained first second) frames = sent second ((sent first frames).map Frame.ofBody) := by
  rw [sent_ofBody, sent, sent, List.flatMap_assoc]
  rfl

theorem sent_of_identity {edit : Edit} (hid : ∀ body, (edit body).bodies = [body])
    (bodies : List (List UInt8)) : sent edit (bodies.map Frame.ofBody) = bodies := by
  simp [sent_ofBody, hid]

/-- What a relay has written comes apart again into the bodies that it sent, with the end of the
stream behind them. -/
theorem stream_written (hs : stream bytes = (frames, .incomplete rest))
    (hfits : ∀ body ∈ sent first frames, (Frame.encode body).length < lengthLimit) :
    stream ((sent first frames).flatMap Frame.encode ++ rest) =
      ((sent first frames).map Frame.ofBody, .incomplete rest) := by
  rw [stream_encode hfits, stream_of_needMore (decode_of_incomplete hs), List.append_nil]

/-- Two relays in a row, on a stream that breaks off without a fault: the second finds exactly the
bodies that the first has sent and the same broken end, whatever reads either of them takes, and
writes what one relay with both edits writes. A second relay that leaves bodies alone writes what it
reads. -/
theorem run_of_chained (near far : Direction) (first second : Edit)
    (hs : stream bytes = (frames, .incomplete rest))
    (hfits : ∀ body ∈ sent first frames, (Frame.encode body).length < lengthLimit)
    {early late : List (List UInt8)} {sink sink' : Sink}
    (hearly : CutInto early bytes) (hsink : Unfailing sink)
    (hlate : CutInto late
      (Step.written ((Relay.new near first).run ⟨early, .endOfFile⟩ sink).steps))
    (hsink' : Unfailing sink') :
    let one := (Relay.new near first).run ⟨early, .endOfFile⟩ sink
    let two := (Relay.new far second).run ⟨late, .endOfFile⟩ sink'
    stream (Step.written one.steps) = ((sent first frames).map Frame.ofBody, .incomplete rest) ∧
      two.outcome = .finished ⟨(Step.written one.steps).length, (sent first frames).length,
        (sent (chained first second) frames).length, 0⟩ ∧
      (∀ direction reads sink, CutInto reads bytes → Unfailing sink →
        Step.written two.steps =
          Step.written ((Relay.new direction (chained first second)).run
            ⟨reads, .endOfFile⟩ sink).steps) ∧
      ((∀ body, (second body).bodies = [body]) →
        Step.written two.steps = Step.written one.steps) := by
  intro one two
  have hone : Step.written one.steps = (sent first frames).flatMap Frame.encode ++ rest :=
    (run_of_settled (settled_new near first) hs hearly hsink).2
  have hstream : stream (Step.written one.steps) =
      ((sent first frames).map Frame.ofBody, .incomplete rest) := by
    rw [hone]
    exact stream_written hs hfits
  have hnew := settled_new far second
  have htwo : Step.written two.steps =
      (sent second ((sent first frames).map Frame.ofBody)).flatMap Frame.encode ++ rest :=
    (run_of_settled hnew hstream hlate hsink').2
  refine ⟨hstream, ?_, ?_, ?_⟩
  · refine (run_of_settled hnew hstream hlate hsink').1.trans ?_
    simp [counted, Relay.new, Stats.zero, sent_chained]
  · intro direction reads sink hcut hfree
    have hdirect : Step.written ((Relay.new direction (chained first second)).run
        ⟨reads, .endOfFile⟩ sink).steps =
          (sent (chained first second) frames).flatMap Frame.encode ++ rest :=
      (run_of_settled (settled_new direction _) hs hcut hfree).2
    rw [htwo, hdirect, sent_chained]
  · intro hid
    rw [htwo, hone, sent_of_identity hid]

/-- A body that looks like the end of a header and is sent with an empty one behind it, through two
relays that cut what they read elsewhere, against one relay that reads octet by octet. -/
theorem run_of_chained_delimiter :
    let header : List UInt8 :=
      [67, 111, 110, 116, 101, 110, 116, 45, 76, 101, 110, 103, 116, 104, 58, 52]
    let bytes : List UInt8 := header ++ delimiter ++ delimiter ++ [88]
    let first : Edit := fun body => ⟨[body, []], []⟩
    let second : Edit := fun body => ⟨[body.reverse, body], []⟩
    let early : List (List UInt8) := [header ++ [13, 10], [13, 10, 13], [10, 13, 10, 88]]
    let between : List UInt8 := [delimiter, []].flatMap Frame.encode ++ [88]
    let late : List (List UInt8) := [between.take 19, between.drop 19]
    let sink : Sink := ⟨none, .writeZero, some 1, none, none⟩
    let one := (Relay.new .toServer first).run ⟨early, .endOfFile⟩ sink
    let two := (Relay.new .toServer second).run ⟨late, .endOfFile⟩ .unlimited
    let direct := (Relay.new .toServer (chained first second)).run
      ⟨bytes.map fun b => [b], .endOfFile⟩ sink
    stream (Step.written one.steps) =
        ([delimiter, []].map Frame.ofBody, .incomplete [88]) ∧
      Step.written two.steps = Step.written direct.steps := by
  intro header bytes first second early between late sink one two direct
  have hframe : Frame.decode bytes = .frame ⟨header, delimiter⟩ 24 := by decide
  have hdrop : bytes.drop 24 = [88] := by decide
  have hs : stream bytes = ([⟨header, delimiter⟩], .incomplete [88]) := by
    rw [stream_of_frame hframe, hdrop, stream_of_needMore (by decide)]
  have hfits : ∀ body ∈ [delimiter, []], (Frame.encode body).length < lengthLimit := by
    decide +kernel
  have hearly : CutInto early bytes := ⟨by decide, by decide⟩
  have hsink : Unfailing sink := ⟨rfl, by decide, rfl, rfl⟩
  have hone : Step.written one.steps = between :=
    (run_of_settled (settled_new .toServer first) hs hearly hsink).2
  have hlate : CutInto late (Step.written one.steps) := by
    rw [hone]
    exact ⟨by simp [late], by decide +kernel⟩
  have hsingle : CutInto (bytes.map fun b => [b]) bytes := ⟨by decide, by decide⟩
  obtain ⟨hstream, -, hboth, -⟩ := run_of_chained .toServer .toServer first second hs hfits
    hearly hsink hlate unfailing_unlimited
  exact ⟨hstream, hboth .toServer _ sink hsingle hsink⟩

end LspRelay.Proofs.Chaining
