import SqlPrep.Prepare
import SqlPrep.Proofs.Comment.Idempotence

/-!
# The report of an unterminated text

Comment removal reports a text that ends inside a comment or a quote. The report is read off the
flags that the scan ends with; here it is read off the segments instead. One record is written if the
last segment is a region that does not end, it names that region and no other, and nothing is written
otherwise. The segments are those of the strategy: a comment of a kind that it keeps is no region.
-/

namespace SqlPrep.Comment

/-- What a region is called in a report. A dollar quote is called by the delimiter that opened it. -/
def Region.shown : Region → String
  | .lineComment => "line comment"
  | .blockComment => "block comment"
  | .singleQuote => "single-quoted string"
  | .doubleQuote => "double-quoted identifier"
  | .dollarQuote tag => "dollar quote ($" ++ String.ofList tag ++ "$)"

/-- The report of a text that ends inside a region. -/
def Region.report (region : Region) : Log.Record :=
  ⟨Log.debug, "sql_query.sanitize.comments", "SQL ended inside an unterminated " ++ region.shown⟩

/-- The construct that the state in a region leaves open is called as the region is. -/
theorem Region.unterminated?_state (region : Region) :
    region.state.unterminated?.map Construct.name = some region.shown := by
  cases region <;> rfl

/-- Only a dollar quote is called by a name that ends in a bracket. -/
theorem Region.getLast?_shown (region : Region) :
    region.shown.toList.getLast? = some ')' ↔ ∃ tag, region = .dollarQuote tag := by
  cases region with
  | dollarQuote tag =>
    have hshown : (Region.dollarQuote tag).shown.toList =
        ("dollar quote ($" ++ String.ofList tag).toList ++ "$)".toList :=
      String.toList_append
    rw [hshown, List.getLast?_append]
    exact iff_of_true rfl ⟨tag, rfl⟩
  | lineComment | blockComment | singleQuote | doubleQuote => exact iff_of_false (by decide) nofun

/-- No two regions are called the same. -/
theorem Region.shown_injective : Function.Injective Region.shown := by
  intro region other h
  have hlast := congrArg (fun name : String => name.toList.getLast? = some ')') h
  simp only [getLast?_shown, eq_iff_iff] at hlast
  cases region with
  | dollarQuote tag =>
    obtain ⟨last, rfl⟩ := hlast.mp ⟨tag, rfl⟩
    have hopened := (String.append_left_inj _).mp h
    have htags := (String.append_right_inj _).mp hopened
    rw [String.ofList_injective htags]
  | lineComment | blockComment | singleQuote | doubleQuote =>
    cases other with
    | dollarQuote tag =>
      obtain ⟨_, hsame⟩ := hlast.mpr ⟨tag, rfl⟩
      cases hsame
    | lineComment | blockComment | singleQuote | doubleQuote =>
      first | rfl | exact absurd h (by decide)

/-- No two regions are reported the same. -/
theorem Region.report_injective : Function.Injective Region.report := by
  intro region other h
  have hmessage := congrArg Log.Record.message h
  exact Region.shown_injective ((String.append_right_inj _).mp hmessage)

variable {strategy : Strategy}

/-- Comment removal reports the region that the segments leave open, and nothing else. -/
theorem records_removeReported (hstrategy : strategy ≠ .none) (sql : String) :
    (removeReported strategy sql).records =
      (openRegion? (segments strategy sql.toList)).toList.map Region.report := by
  rw [removeReported, remove_eq_of_segments hstrategy]
  cases openRegion? (segments strategy sql.toList) with
  | none => rfl
  | some region =>
    obtain ⟨construct, hopen, hname⟩ := Option.map_eq_some_iff.mp region.unterminated?_state
    simp [stateIn, hopen, hname, Region.report, toString]

/-- A segment that does not end has a region, and begins with its opening. -/
theorem exists_region_of_open {text : List Char} {g : Segment} (hg : g ∈ segments strategy text)
    (hopen : g.closed = false) :
    ∃ region, g.region = some region ∧ g.open? = some region ∧ region.opening <+: g.text := by
  obtain ⟨c, rest, after, hfirst⟩ := eq_firstSegment_of_mem hg
  cases hregion : g.region with
  | none =>
    obtain ⟨-, rfl, -⟩ := firstSegment_plain hfirst hregion
    cases hopen
  | some region =>
    refine ⟨region, rfl, ?_, opening_prefix_text hfirst hregion⟩
    rw [Segment.open?, hopen, hregion]
    rfl

/-- The report of an unterminated text is exact. A text is cut into segments, all of which end but
perhaps the last. If the last one does not, it begins as a comment or quote, and one record is
written, which is the report of this region and of no other; if it does, nothing is. When no comments
are removed nothing is ever written. -/
theorem unterminated_reported (strategy : Strategy) (sql : String) :
    (strategy ≠ .none →
      joined (segments strategy sql.toList) = sql.toList ∧
      (∀ g ∈ (segments strategy sql.toList).dropLast, g.closed = true) ∧
      (∀ g ∈ (segments strategy sql.toList).getLast?, g.closed = false →
        ∃ region, g.region = some region ∧ region.opening <+: g.text ∧
          (removeReported strategy sql).records = [region.report] ∧
          ∀ other : Region, (removeReported strategy sql).records = [other.report] →
            other = region) ∧
      ((∀ g ∈ (segments strategy sql.toList).getLast?, g.closed = true) →
        (removeReported strategy sql).records = [])) ∧
    (removeReported .none sql).records = [] := by
  refine ⟨fun hstrategy => ⟨joined_segments strategy sql.toList,
    fun g hg => closed_of_mem_dropLast hg, fun g hlast hopen => ?_, fun hclosed => ?_⟩, ?_⟩
  · obtain ⟨region, hregion, hleft, hopening⟩ :=
      exists_region_of_open (List.mem_of_getLast? hlast) hopen
    have hrecords : (removeReported strategy sql).records = [region.report] := by
      rw [records_removeReported hstrategy, openRegion?, Option.mem_def.mp hlast, Option.bind_some,
        hleft]
      rfl
    refine ⟨region, hregion, hopening, hrecords, fun other hother => ?_⟩
    exact Region.report_injective (List.singleton_inj.mp (hother.symm.trans hrecords))
  · have hnone : openRegion? (segments strategy sql.toList) = none := by
      rw [openRegion?, Option.bind_eq_none_iff]
      intro g hlast
      rw [Segment.open?, if_pos (hclosed g hlast)]
    rw [records_removeReported hstrategy, hnone]
    rfl
  · simp [removeReported, remove]

/-- A dollar quote goes on behind a delimiter with another tag, and is reported with its own; a
doubled mark and an escape in front of the closing mark leave nothing to report. -/
theorem unterminated_reported_other_tag :
    Strategy.all ≠ .none ∧
      (removeReported .all "a $x$ 'b' $y$").records = [Region.report (.dollarQuote ['x'])] ∧
      (removeReported .all "'it''s \\\\'").records = [] := by
  have hstrategy : Strategy.all ≠ .none := by decide
  obtain ⟨-, -, hopen, -⟩ := (unterminated_reported .all "a $x$ 'b' $y$").1 hstrategy
  obtain ⟨-, -, -, hclosed⟩ := (unterminated_reported .all "'it''s \\\\'").1 hstrategy
  have hlast : (segments .all "a $x$ 'b' $y$".toList).getLast? =
      some ⟨some (.dollarQuote ['x']), "$x$ 'b' $y$".toList, false⟩ := by
    decide +kernel
  obtain ⟨region, hregion, -, hrecords, -⟩ := hopen _ hlast rfl
  cases hregion
  exact ⟨hstrategy, hrecords, hclosed (by decide +kernel)⟩

end SqlPrep.Comment
