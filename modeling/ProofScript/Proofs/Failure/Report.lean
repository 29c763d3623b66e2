import ProofScript.Failure.Report
import ProofScript.Proofs.Outcome
import ProofScript.Proofs.Source.Cached

/-!
# What a report shows

A failure that points at a stretch of a line has a report, whatever its lines are looked up in: no
offset that is computed lies out of range, and the source is cut between characters. The report
shows that line as a whole, and the stretch is what is marked of it.

The exception is a cache that was asked about another text in the same place before.
-/
namespace ProofScript

open Text

theorem Span.Covers.isNull_eq_false {span : Span} {source chars : List Char}
    (covers : span.Covers source chars) (nonempty : chars ≠ []) : span.isNull = false := by
  obtain ⟨before, after, -, -, stop⟩ := covers
  have positive := byteLength_pos nonempty
  rw [Span.isNull, beq_eq_false_iff_ne]
  intro null
  rw [null, UInt32.toNat_zero] at stop
  omega

/-- The snippet shows the stretch: it has the line that the stretch is on, as a whole and with its
number, the mark begins and ends where the failure does, and what is marked is the stretch. -/
structure Snippet.Shows {text : String} (snippet : Snippet) (failure : Failure) (name : String)
    (stretch : Stretch text) : Prop where
  lines : snippet.lines.toList = stretch.line
  firstLine : snippet.firstLine = stretch.position.line
  origin : snippet.origin = name
  label : snippet.annotation.label = failure.diagnostic.message
  start : stretch.lineStart + snippet.annotation.start = failure.span.start.toNat
  stop : stretch.lineStart + snippet.annotation.stop = failure.span.stop.toNat
  marked : ∃ lead trail, snippet.lines.toList = lead ++ stretch.chars ++ trail ∧
    snippet.annotation.start = byteLength lead ∧
    snippet.annotation.stop = byteLength lead + byteLength stretch.chars

namespace Failure

variable {failure : Failure} {text : String} {stretch : Stretch text}

/-- The failure points at the stretch, which is not empty. -/
structure PointsAt (failure : Failure) (stretch : Stretch text) : Prop where
  notNull : failure.span.isNull = false
  start : failure.span.start.toNat = stretch.start
  stop : failure.span.stop.toNat = stretch.stop
  nonempty : failure.span.start.toNat < failure.span.stop.toNat
  inside : failure.span.stop.toNat ≤ text.utf8ByteSize

/-- Whatever the script is called and wherever it is in memory, there is a report of the failure,
and it has a snippet that shows the stretch. Afterwards the cache may be asked again. -/
def ShownAt (failure : Failure) (stretch : Stretch text) : Prop :=
  ∀ (source : Source) (cache : PositionCache), source.text = text →
    cache.RightAbout source.toBuffer →
      ∃ report snippet later, failure.report source cache = .ok (report, later) ∧
        report.snippet = some snippet ∧ snippet.Shows failure source.name stretch ∧
        later.RightAbout source.toBuffer

/-- What the span covers is a stretch of a line. -/
theorem exists_pointsAt {chars : List Char} (covers : failure.span.Covers text.toList chars)
    (nonempty : chars ≠ []) (oneLine : '\n' ∉ chars) :
    ∃ stretch : Stretch text, stretch.chars = chars ∧ failure.PointsAt stretch := by
  obtain ⟨stretch, same, start, stop⟩ := covers.exists_stretch oneLine
  have positive := byteLength_pos nonempty
  have inside := stretch.stop_le
  have length : stretch.stop = stretch.start + byteLength stretch.chars := rfl
  rw [same] at length
  exact ⟨stretch, same, covers.isNull_eq_false nonempty, start, stop, by omega, by omega⟩

theorem distance_eq_ok_iff {origin offset result : Nat} :
    distance origin offset = .ok result ↔ origin + result = offset := by
  unfold distance
  split
  next less =>
    refine iff_of_false (by simp) ?_
    omega
  next =>
    rw [Except.ok.injEq]
    omega

/-- The snippet that is cut out of the source. -/
def snippetOf (failure : Failure) (name : String) (stretch : Stretch text) : Snippet where
  lines := String.ofList stretch.line
  firstLine := stretch.position.line
  origin := name
  fold := true
  annotation :=
    ⟨.error, byteLength stretch.lead, byteLength stretch.lead + byteLength stretch.chars,
      failure.diagnostic.message⟩

theorem PointsAt.shows (pointsAt : failure.PointsAt stretch) (name : String) :
    (failure.snippetOf name stretch).Shows failure name stretch where
  lines := String.toList_ofList
  firstLine := rfl
  origin := rfl
  label := rfl
  start := pointsAt.start.symm
  stop := by
    rw [pointsAt.stop]
    exact (Nat.add_assoc ..).symm
  marked := ⟨stretch.lead, stretch.trail, String.toList_ofList, rfl, rfl⟩

/-- All offsets are in order, and the source is cut at the ends of the line. -/
theorem PointsAt.snippet_eq {source : Source} {stretch : Stretch source.text}
    (pointsAt : failure.PointsAt stretch) :
    failure.snippet source stretch.position = .ok (failure.snippetOf source.name stretch) := by
  have line : distance stretch.position.column (failure.span.start.toNat + 1) =
      .ok stretch.lineStart := by
    rw [distance_eq_ok_iff, pointsAt.start, Stretch.position, Stretch.start]
    dsimp only
    omega
  have first : distance stretch.lineStart failure.span.start.toNat =
      .ok (byteLength stretch.lead) := by
    rw [distance_eq_ok_iff, pointsAt.start, Stretch.start]
  have last : distance stretch.lineStart failure.span.stop.toNat =
      .ok (byteLength stretch.lead + byteLength stretch.chars) := by
    rw [distance_eq_ok_iff, pointsAt.stop, Stretch.stop, Stretch.start, Nat.add_assoc]
  have later : max failure.span.stop.toNat failure.span.start.toNat = stretch.stop := by
    rw [Nat.max_eq_left pointsAt.nonempty.le, pointsAt.stop]
  rw [snippet, bind_eq_ok]
  refine ⟨_, line, bind_eq_ok.mpr ⟨_, first, bind_eq_ok.mpr ⟨_, last, ?_⟩⟩⟩
  rw [later, stretch.endOfLine_stop, stretch.slice?_line]
  rfl

theorem PointsAt.report_eq {source : Source} {cache : PositionCache} {stretch : Stretch source.text}
    (pointsAt : failure.PointsAt stretch) (right : cache.RightAbout source.toBuffer)
    (small : source.text.utf8ByteSize < UInt32.size - 1) :
    failure.report source cache =
      .ok (⟨.error, failure.title, failure.diagnostic.advice.map fun text => (Severity.note, text),
          some (failure.snippetOf source.name stretch)⟩,
        (cache.starts source.toBuffer).2) := by
  have located : ¬ (failure.span.isNull || decide (source.text.utf8ByteSize <
      failure.span.stop.toNat)) = true := by
    simpa [pointsAt.notNull] using pointsAt.inside
  have position : cache.positionAt source.toBuffer failure.span.start.toNat =
      (some stretch.position, (cache.starts source.toBuffer).2) := by
    refine Prod.ext ?_ rfl
    rw [right.positionAt_eq, pointsAt.start, stretch.positionAt_start small]
  rw [report, if_neg located, position]
  dsimp only
  rw [pointsAt.snippet_eq]
  rfl

theorem PointsAt.shownAt (pointsAt : failure.PointsAt stretch)
    (small : text.utf8ByteSize < UInt32.size - 1) : failure.ShownAt stretch := by
  rintro source cache rfl right
  exact ⟨_, _, _, pointsAt.report_eq right small, rfl, pointsAt.shows source.name, right.starts⟩

end Failure

end ProofScript
