import Remap.Proofs.Directive.Target

/-!
# What resolved segments cover

Where a tree fits its text no conversion of offsets fails, so every directive
comes to something and no resolution fails. The segment that a directive becomes
starts at or before its comment, though not before the end of the construct in
front, and goes past the construct behind the comment (`Segment.Covers`). Its end
is widened over terminators. For one construct `rest` reaches at least as far as
`next`.
-/

namespace Remap

open Text

abbrev Node.span (node : Node) : ByteSpan := ⟨node.start, node.stop⟩

/-- The characters of a span of bytes. -/
def ByteSpan.chars? (text : List Char) (span : ByteSpan) : Option Segment := do
  let start ← charOffset? text span.start
  let stop ← charOffset? text span.stop
  return ⟨start, stop⟩

/-- A segment of a text reaches from before a comment past a construct behind it, and
takes in the terminators behind the range that it is widened from. -/
structure Segment.Covers (segment : Segment) (text : List Char)
    (comment construct range : Segment) : Prop where
  nonneg : 0 ≤ segment.start
  start_le : segment.start ≤ comment.start
  comment_le : comment.stop ≤ construct.start
  construct_le : construct.stop ≤ segment.stop
  le_length : segment.stop ≤ text.length
  start_eq : segment.start = range.start
  range_le : range.stop ≤ segment.stop
  terminators : ∀ i : Nat, range.stop ≤ i → i < segment.stop →
    ∃ c, text[i]? = some c ∧ isTerminator c
  widest : segment.stop = text.length ∨
    ∃ c, text[segment.stop.toNat]? = some c ∧ ¬ isTerminator c

/-- The same, of a segment that was widened from a range of bytes. -/
def Segment.CoversBytes (segment : Segment) (text : List Char)
    (comment construct range : ByteSpan) : Prop :=
  ∃ commentChars constructChars rangeChars, comment.chars? text = some commentChars ∧
    construct.chars? text = some constructChars ∧ range.chars? text = some rangeChars ∧
    segment.Covers text commentChars constructChars rangeChars

/-- A range of bytes starts where another does and stops no earlier, before widening
and after. -/
def ByteSpan.ReachesAsFar (longer : ByteSpan) (text : List Char) (shorter : ByteSpan) : Prop :=
  ∃ longerChars shorterChars longerSegment shorterSegment,
    longer.chars? text = some longerChars ∧ shorter.chars? text = some shorterChars ∧
    longer.segment text = .ok longerSegment ∧ shorter.segment text = .ok shorterSegment ∧
    longerChars.start = shorterChars.start ∧ shorterChars.stop ≤ longerChars.stop ∧
    longerSegment.start = shorterSegment.start ∧ shorterSegment.stop ≤ longerSegment.stop

/-- How a directive in a comment became a segment, and what the segment covers. -/
structure IsResolvedTo (grammar : Grammar) (text : List Char) (root comment : Node)
    (directive : RangeDirective) (target : Target) (range : ByteSpan) (segment : Segment) :
    Prop where
  resolved : resolveComment grammar text root comment = .ok (some (.resolved directive segment))
  target_eq : root.target? grammar comment.span = some target
  range_eq : target.range? grammar directive = some range
  covers : segment.CoversBytes text comment.span target.node.span range
  placed : ∃ parent rest before behind,
    target.IsPlaced grammar root comment.span parent rest before behind ∧
      ∀ sibling ∈ before.getLast?, ∃ stop : Nat, charOffset? text sibling.stop = some stop ∧
        stop ≤ segment.start

/-! ## Conversions that succeed -/

section

variable {text : List Char} {span : ByteSpan} {start stop : Nat}

theorem chars?_of_marks (hstart : Marks text span.start start) (hstop : Marks text span.stop stop) :
    span.chars? text = some ⟨start, stop⟩ := by
  simp [ByteSpan.chars?, charOffset?_of_marks hstart, charOffset?_of_marks hstop]

theorem segment_of_marks (hstart : Marks text span.start start)
    (hstop : Marks text span.stop stop) : span.segment text = .ok ⟨start, widen text stop⟩ := by
  simp only [ByteSpan.segment, charOffset_of_marks hstart, charOffset_of_marks hstop]
  rfl

end

section

variable {grammar : Grammar} {text : List Char} {tree : SyntaxTree} {comment : ByteSpan}
  {target : Target} {parent : Node} {rest before behind : List Node}

theorem Target.IsPlaced.exists_marks_before (hfits : tree.Fits text)
    (h : target.IsPlaced grammar tree.root comment parent rest before behind) :
    ∃ index, Marks text target.before index := by
  rw [h.before_eq]
  cases hlast : before.getLast? with
  | none =>
      rw [lastStop?, hlast]
      exact (hfits.marks parent h.parent_mem).1
  | some sibling =>
      rw [lastStop?, hlast]
      refine (hfits.marks sibling (h.mem_preorder ?_)).2
      exact List.mem_append_left _ (List.mem_of_getLast? hlast)

theorem Target.IsPlaced.exists_marks_after (hfits : tree.Fits text)
    (h : target.IsPlaced grammar tree.root comment parent rest before behind) :
    ∃ index, Marks text target.after index := by
  rw [h.after_eq]
  cases hhead : behind.head? with
  | none => exact (hfits.marks parent h.parent_mem).2
  | some sibling =>
      refine (hfits.marks sibling (h.mem_preorder ?_)).1
      exact List.mem_append_right _ (List.mem_cons_of_mem _ (List.mem_of_mem_head? hhead))

theorem Target.IsPlaced.exists_marks_range (hfits : tree.Fits text)
    (h : target.IsPlaced grammar tree.root comment parent rest before behind)
    {directive : RangeDirective} {range : ByteSpan}
    (hrange : target.range? grammar directive = some range) :
    ∃ start stop, Marks text range.start start ∧ Marks text range.stop stop := by
  obtain ⟨start, hstart⟩ := h.exists_marks_before hfits
  cases directive with
  | next =>
      obtain ⟨stop, hstop⟩ := h.exists_marks_after hfits
      cases hrange
      exact ⟨start, stop, hstart, hstop⟩
  | rest =>
      obtain ⟨block, hblock, rfl⟩ := Option.map_eq_some_iff.mp hrange
      have hmem := List.mem_of_find?_eq_some hblock
      rw [h.ancestors_eq] at hmem
      obtain ⟨stop, hstop⟩ := (hfits.marks block (h.lineage.mem_preorder hmem)).2
      exact ⟨start, stop, hstart, hstop⟩

end

/-! ## Comments -/

section

variable {grammar : Grammar} {text : List Char} {root comment : Node}

/-- What a directive that became a segment went through. -/
theorem resolveComment_eq_resolved {directive : RangeDirective} {segment : Segment}
    (h : resolveComment grammar text root comment = .ok (some (.resolved directive segment))) :
    ∃ target range, root.target? grammar comment.span = some target ∧
      target.range? grammar directive = some range ∧ range.segment text = .ok segment := by
  simp only [resolveComment, bind, Except.bind, pure, Except.pure] at h
  split at h
  · split at h
    · split at h
      · split at h <;> cases h
      · next target htarget =>
          split at h
          · split at h <;> cases h
          · next range hrange =>
              split at h
              · cases h
              · next own hsegment =>
                  cases h
                  exact ⟨target, range, htarget, hrange, hsegment⟩
    · cases h
  · cases h

/-- Where the tree fits the text a comment always resolves to something or nothing. -/
theorem exists_resolveComment_of_fits {tree : SyntaxTree} (hfits : tree.Fits text)
    (hcomment : comment ∈ tree.root.preorder) :
    ∃ outcome, resolveComment grammar text tree.root comment = .ok outcome := by
  obtain ⟨⟨start, hstart⟩, ⟨stop, hstop⟩⟩ := hfits.marks comment hcomment
  obtain ⟨body, hbody⟩ := exists_cut?_of_marks hstart hstop
  simp only [resolveComment, hbody, charOffset_of_marks hstart, bind, Except.bind, pure,
    Except.pure]
  split
  · split
    · exact ⟨_, rfl⟩
    · next target htarget =>
        split
        · exact ⟨_, rfl⟩
        · next range hrange =>
            obtain ⟨parent, rest, before, behind, hplaced⟩ :=
              Node.exists_isPlaced_of_target? htarget
            obtain ⟨start, stop, hstart, hstop⟩ := hplaced.exists_marks_range hfits hrange
            rw [segment_of_marks hstart hstop]
            exact ⟨_, rfl⟩
  · exact ⟨_, rfl⟩

/-- The resolutions are those of all comments, if none fails. -/
theorem resolveComments_of_ok {comments : List Node}
    (h : ∀ comment ∈ comments, ∃ outcome,
      resolveComment grammar text root comment = .ok outcome) :
    (resolveComments grammar text root comments).2 = none ∧
      ∀ resolution, resolution ∈ (resolveComments grammar text root comments).1 ↔
        ∃ comment ∈ comments, resolveComment grammar text root comment = .ok (some resolution) := by
  induction comments with
  | nil => simp [resolveComments]
  | cons comment comments ih =>
      obtain ⟨outcome, houtcome⟩ := h comment List.mem_cons_self
      obtain ⟨hnone, hmem⟩ := ih fun c hc => h c (List.mem_cons_of_mem _ hc)
      simp only [resolveComments, houtcome]
      refine ⟨hnone, fun resolution => ?_⟩
      simp [hmem, houtcome]

end

/-! ## Segments -/

variable {grammar : Grammar} {text : List Char} {tree : SyntaxTree}

/-- The segments of a tree that fits its text are those that its comments resolve to. -/
theorem exists_segments_of_fits (grammar : Grammar) (hfits : tree.Fits text) :
    ∃ segments, (resolveSegments grammar text tree).value = .ok segments ∧
      ∀ segment, segment ∈ segments ↔ ∃ comment ∈ tree.root.comments grammar, ∃ directive,
        resolveComment grammar text tree.root comment =
          .ok (some (.resolved directive segment)) := by
  have hok : ∀ comment ∈ tree.root.comments grammar, ∃ outcome,
      resolveComment grammar text tree.root comment = .ok outcome := fun comment hcomment =>
    exists_resolveComment_of_fits hfits (Node.mem_preorder_of_mem_comments hcomment)
  obtain ⟨hnone, hmem⟩ := resolveComments_of_ok hok
  refine ⟨_, by simp only [resolveSegments, hfits.hasError, hnone]; rfl, fun segment => ?_⟩
  rw [List.mem_filterMap]
  constructor
  · rintro ⟨resolution, hresolution, hsegment⟩
    obtain ⟨comment, hcomment, hresolved⟩ := (hmem resolution).mp hresolution
    cases resolution with
    | resolved directive own =>
        cases hsegment
        exact ⟨comment, hcomment, directive, hresolved⟩
    | withoutTarget => cases hsegment
    | withoutBlock => cases hsegment
  · rintro ⟨comment, hcomment, directive, hresolved⟩
    exact ⟨_, (hmem _).mpr ⟨comment, hcomment, hresolved⟩, rfl⟩

/-- A widened range covers the comment and the construct that it was taken around. -/
theorem covers_of_isPlaced (hfits : tree.Fits text) {comment : Node}
    (hcomment : comment ∈ tree.root.preorder) {target : Target} {parent : Node}
    {rest before behind : List Node}
    (hplaced : target.IsPlaced grammar tree.root comment.span parent rest before behind)
    {directive : RangeDirective} {range : ByteSpan}
    (hrange : target.range? grammar directive = some range) {segment : Segment}
    (hsegment : range.segment text = .ok segment) :
    segment.CoversBytes text comment.span target.node.span range := by
  obtain ⟨⟨commentStart, hcommentStart⟩, ⟨commentStop, hcommentStop⟩⟩ :=
    hfits.marks comment hcomment
  obtain ⟨⟨nodeStart, hnodeStart⟩, ⟨nodeStop, hnodeStop⟩⟩ :=
    hfits.marks target.node (hplaced.mem_preorder (by simp))
  obtain ⟨start, stop, hstart, hstop⟩ := hplaced.exists_marks_range hfits hrange
  obtain ⟨hrangeStart, hrangeStop⟩ := hplaced.range_bounds hfits.orderly hrange
  have hroot := (Node.bounds_of_mem_preorder hfits.orderly hcomment).1
  refine ⟨_, _, _, chars?_of_marks hcommentStart hcommentStop,
    chars?_of_marks hnodeStart hnodeStop, chars?_of_marks hstart hstop, ?_⟩
  rw [segment_of_marks hstart hstop] at hsegment
  cases hsegment
  have hwiden := le_widen text stop
  have hstartLe : start ≤ commentStart :=
    hstart.index_le_of_le hcommentStart (hrangeStart ▸ hplaced.before_le hroot)
  have hcommentLe : commentStop ≤ nodeStart :=
    hcommentStop.index_le_of_le hnodeStart hplaced.comment_le
  have hnodeLe : nodeStop ≤ stop := hnodeStop.index_le_of_le hstop hrangeStop
  have hlength := widen_le_length hstop.le_length
  exact {
    nonneg := by simp
    start_le := by simpa using hstartLe
    comment_le := by simpa using hcommentLe
    construct_le := by simpa using Nat.le_trans hnodeLe hwiden
    le_length := by simpa using hlength
    start_eq := rfl
    range_le := by simpa using hwiden
    terminators := fun i hlo hhi =>
      isTerminator_of_lt_widen (Int.ofNat_le.mp hlo) (Int.ofNat_lt.mp hhi)
    widest := (widen_eq_length_or hstop.le_length).imp_left (congrArg Int.ofNat) }

/-- The construct in front of a target ends at or before the segment starts. -/
theorem sibling_le_of_isPlaced (hfits : tree.Fits text) {comment : ByteSpan} {target : Target}
    {parent : Node} {rest before behind : List Node}
    (hplaced : target.IsPlaced grammar tree.root comment parent rest before behind)
    {directive : RangeDirective} {range : ByteSpan}
    (hrange : target.range? grammar directive = some range) {segment : Segment}
    (hsegment : range.segment text = .ok segment) :
    ∀ sibling ∈ before.getLast?, ∃ stop : Nat, charOffset? text sibling.stop = some stop ∧
      stop ≤ segment.start := by
  intro sibling hsibling
  obtain ⟨start, stop, hstart, hstop⟩ := hplaced.exists_marks_range hfits hrange
  rw [segment_of_marks hstart hstop] at hsegment
  cases hsegment
  rw [(hplaced.range_bounds hfits.orderly hrange).1, hplaced.le_before hsibling] at hstart
  exact ⟨start, charOffset?_of_marks hstart, Int.le_refl _⟩

theorem reachesAsFar_of_isPlaced (hfits : tree.Fits text) {comment : ByteSpan} {target : Target}
    {parent : Node} {rest before behind : List Node}
    (hplaced : target.IsPlaced grammar tree.root comment parent rest before behind)
    {next toEnd : ByteSpan} (hnext : target.range? grammar .next = some next)
    (htoEnd : target.range? grammar .rest = some toEnd) : toEnd.ReachesAsFar text next := by
  obtain ⟨nextStart, nextStop, hnextStart, hnextStop⟩ := hplaced.exists_marks_range hfits hnext
  obtain ⟨restStart, restStop, hrestStart, hrestStop⟩ := hplaced.exists_marks_range hfits htoEnd
  obtain ⟨hstart, hstop⟩ := hplaced.after_le_of_rest hfits.orderly htoEnd
  cases hnext
  have hstartEq : restStart = nextStart := by
    rw [hstart] at hrestStart
    exact Nat.le_antisymm (hrestStart.index_le_of_le hnextStart (Nat.le_refl _))
      (hnextStart.index_le_of_le hrestStart (Nat.le_refl _))
  have hstopLe : nextStop ≤ restStop := hnextStop.index_le_of_le hrestStop hstop
  refine ⟨_, _, _, _, chars?_of_marks hrestStart hrestStop, chars?_of_marks hnextStart hnextStop,
    segment_of_marks hrestStart hrestStop, segment_of_marks hnextStart hnextStop, ?_⟩
  exact ⟨congrArg Int.ofNat hstartEq, Int.ofNat_le.mpr hstopLe, congrArg Int.ofNat hstartEq,
    Int.ofNat_le.mpr (widen_mono hstopLe)⟩

/-- What a directive that became a segment went through, in a tree that fits its text. -/
theorem exists_isResolvedTo (hfits : tree.Fits text) {comment : Node}
    (hcomment : comment ∈ tree.root.comments grammar) {directive : RangeDirective}
    {segment : Segment} (hresolved : resolveComment grammar text tree.root comment =
      .ok (some (.resolved directive segment))) :
    ∃ target range,
      IsResolvedTo grammar text tree.root comment directive target range segment := by
  obtain ⟨target, range, htarget, hrange, hsegment⟩ := resolveComment_eq_resolved hresolved
  obtain ⟨parent, rest, before, behind, hplaced⟩ := Node.exists_isPlaced_of_target? htarget
  have hmem := Node.mem_preorder_of_mem_comments hcomment
  exact ⟨target, range, {
    resolved := hresolved
    target_eq := htarget
    range_eq := hrange
    covers := covers_of_isPlaced hfits hmem hplaced hrange hsegment
    placed := ⟨parent, rest, before, behind, hplaced,
      sibling_le_of_isPlaced hfits hplaced hrange hsegment⟩ }⟩

/-- In a tree that fits its text no resolution fails. Each segment comes from a
directive in a comment; whichever comment a segment comes from, it covers that comment
and the construct behind it; and for whichever construct a comment refers to, `rest`
reaches as far as `next`. -/
theorem resolveSegments_covers (hfits : tree.Fits text) :
    ∃ segments, (resolveSegments grammar text tree).value = .ok segments ∧
      (∀ segment ∈ segments, ∃ comment ∈ tree.root.comments grammar, ∃ directive,
        resolveComment grammar text tree.root comment =
          .ok (some (.resolved directive segment))) ∧
      (∀ comment ∈ tree.root.comments grammar, ∀ directive segment,
        resolveComment grammar text tree.root comment =
            .ok (some (.resolved directive segment)) →
          segment ∈ segments ∧ ∃ target range,
            IsResolvedTo grammar text tree.root comment directive target range segment) ∧
      ∀ comment ∈ tree.root.comments grammar, ∀ target next toEnd,
        tree.root.target? grammar comment.span = some target →
        target.range? grammar .next = some next → target.range? grammar .rest = some toEnd →
        toEnd.ReachesAsFar text next := by
  obtain ⟨segments, hsegments, hmem⟩ := exists_segments_of_fits grammar hfits
  refine ⟨segments, hsegments, fun segment => (hmem segment).mp, ?_, ?_⟩
  · intro comment hcomment directive segment hresolved
    exact ⟨(hmem segment).mpr ⟨comment, hcomment, directive, hresolved⟩,
      exists_isResolvedTo hfits hcomment hresolved⟩
  · intro comment _ target next toEnd htarget hnext htoEnd
    obtain ⟨parent, rest, before, behind, hplaced⟩ := Node.exists_isPlaced_of_target? htarget
    exact reachesAsFar_of_isPlaced hfits hplaced hnext htoEnd

/-- A block of a comment with a directive and two statements. -/
def blockText : List Char := "\x7b\n// t8 ignore rest\nb();\nc();\n\x7d".toList

def blockTree : SyntaxTree where
  root :=
    ⟨"program", 0, 31, true, false, 0, 0, [⟨"statement_block", 0, 31, true, false, 0, 0, [
      ⟨"\x7b", 0, 1, false, false, 0, 0, []⟩,
      ⟨"comment", 2, 19, true, false, 1, 0, []⟩,
      ⟨"expression_statement", 20, 24, true, false, 2, 0, []⟩,
      ⟨"expression_statement", 25, 29, true, false, 3, 0, []⟩,
      ⟨"\x7d", 30, 31, false, false, 4, 0, []⟩]⟩]⟩
  hasError := false

theorem resolveSegments_covers_blockTree :
    blockTree.Fits blockText ∧
      (resolveSegments .javascript blockText blockTree).value = .ok [⟨0, 31⟩] ∧
      ∃ comment ∈ blockTree.root.comments .javascript, ∃ directive target range,
        IsResolvedTo .javascript blockText blockTree.root comment directive target range
          ⟨0, 31⟩ := by
  have hsingle : blockText.length = byteSize blockText := by decide
  have hbounds : ∀ node ∈ blockTree.root.preorder,
      node.start ≤ blockText.length ∧ node.stop ≤ blockText.length := by decide
  have hfits : blockTree.Fits blockText := {
    hasError := rfl
    orderly := by decide
    marks := fun node hnode =>
      ⟨⟨_, marks_self hsingle (hbounds node hnode).1⟩,
        ⟨_, marks_self hsingle (hbounds node hnode).2⟩⟩ }
  have hvalue : (resolveSegments .javascript blockText blockTree).value = .ok [⟨0, 31⟩] := by
    rfl
  obtain ⟨segments, hsegments, hfrom, hcovers, -⟩ := resolveSegments_covers hfits
  cases hvalue.symm.trans hsegments
  obtain ⟨comment, hcomment, directive, hresolved⟩ := hfrom _ List.mem_cons_self
  obtain ⟨-, target, range, hresolvedTo⟩ := hcovers comment hcomment directive _ hresolved
  exact ⟨hfits, hvalue, comment, hcomment, directive, target, range, hresolvedTo⟩

end Remap
