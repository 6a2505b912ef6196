/-
One channel for each line: `_remove_duplicate_participants`.

The channels are grouped by line after their full names have been sorted.  The
name of a line may contain a dash, so a channel of the line `a-b` can sort between
two channels of the line `a`, which are then in two groups and are both kept.  Every
line keeps exactly one channel if and only if that does not happen
(`oneChannelPerLine_iff`).
-/
import CallLogd.Generator

namespace CallLogd

open Sequences

/-- The name of a channel of a line, which is a protocol and an interface: the
suffix that tells the channel apart has no dash. -/
def IsChannelOf (name : String) (line : String × String) : Prop :=
  '/' ∉ line.1.toList ∧ ∃ suffix, '-' ∉ suffix ∧
    name.toList = line.1.toList ++ '/' :: (line.2.toList ++ '-' :: suffix)

/-- The parser of the names returns the protocol and the part before the last dash. -/
def Externals.SplitsChannels (x : Externals) : Prop :=
  ∀ name line, IsChannelOf name line → x.protocolInterfaceFromChannel name = .ok line

/-- What is kept of a table of channels: one channel of each line, an answered one
if there is any. -/
structure OneChannelPerLine (table kept : Dict String RawParticipant) : Prop where
  sublist : kept.Sublist table
  unique : ∀ line, (∃ p ∈ table, IsChannelOf p.1 line) → ∃! p, p ∈ kept ∧ IsChannelOf p.1 line
  answered : ∀ line, ∀ p ∈ kept, ∀ q ∈ table, IsChannelOf p.1 line → IsChannelOf q.1 line →
    q.2.answered = some true → p.2.answered = some true

/-- No channel of another line sorts between two channels of a line. -/
def LinesApart (table : Dict String RawParticipant) : Prop :=
  ∀ p ∈ table, ∀ q ∈ table, ∀ r ∈ table, p.1 < q.1 → q.1 < r.1 →
    ∀ line line', IsChannelOf p.1 line → IsChannelOf r.1 line → IsChannelOf q.1 line' →
      line' = line

variable {x : Externals} {name : String} {names : List String} {line line' : String × String}
  {call : RawCallLog} {table : Dict String RawParticipant}
  {lines : List ((String × String) × String)} {groups : List ((String × String) × List String)}

lemma Externals.SplitsChannels.line_eq (hx : x.SplitsChannels) (h : IsChannelOf name line)
    (h' : IsChannelOf name line') : line = line' :=
  Except.ok.inj ((hx name line h).symm.trans (hx name line' h'))

lemma beforeLastDash_append {s suffix : List Char} (h : '-' ∉ suffix) :
    beforeLastDash (s ++ '-' :: suffix) = s := by
  have hdrop : (suffix.reverse ++ '-' :: s.reverse).dropWhile (· ≠ '-') = '-' :: s.reverse := by
    rw [List.dropWhile_append_of_pos fun c hc => ?_, List.dropWhile_cons_of_neg (by simp)]
    rw [decide_eq_true_eq]
    rintro rfl
    exact h (List.mem_reverse.1 hc)
  rw [beforeLastDash, List.reverse_append, List.reverse_cons, List.append_assoc,
    List.singleton_append, hdrop, List.drop_one, List.tail_cons, List.reverse_reverse]

lemma splitsChannels_ascii : Externals.ascii.SplitsChannels := by
  rintro name ⟨protocol, interface⟩ ⟨hprotocol, suffix, hsuffix, hname⟩
  have hsplit : Text.splitOnce ['/'] name.toList =
      some (protocol.toList, interface.toList ++ '-' :: suffix) := by
    rw [hname]
    exact Text.splitOnce_append hprotocol
  simp only [Externals.ascii, hsplit, beforeLastDash_append hsuffix, String.ofList_toList]

/-! ### The channel that is kept -/

/-- The channel that is kept among those of a group. -/
def keptChannel (call : RawCallLog) (names : List String) : Option String :=
  (names.filter fun name =>
    ((call.rawParticipants.get? name).bind (·.answered)) = some true).getLast?.or names.getLast?

lemma duplicateChannels_eq : CallLogsGenerator.duplicateChannels call names =
    names.filter fun name => keptChannel call names ≠ some name := rfl

variable (call) in
/-- A channel of the group is kept, and it is answered if any of them is. -/
lemma keptChannel_spec (hnames : names ≠ []) : ∃ name ∈ names, keptChannel call names = some name ∧
    ((∃ n ∈ names, (call.rawParticipants.get? n).bind (·.answered) = some true) →
      (call.rawParticipants.get? name).bind (·.answered) = some true) := by
  let answered := names.filter fun n =>
    ((call.rawParticipants.get? n).bind (·.answered)) = some true
  cases hlast : answered.getLast? with
  | some name =>
      obtain ⟨hname, hanswered⟩ := List.mem_filter.1 (List.mem_of_getLast? hlast)
      refine ⟨name, hname, ?_, fun _ => of_decide_eq_true hanswered⟩
      exact congrArg (Option.or · names.getLast?) hlast
  | none =>
      have hnone : answered = [] := List.getLast?_eq_none_iff.1 hlast
      obtain ⟨name, hname⟩ := Option.ne_none_iff_exists'.1 (mt List.getLast?_eq_none_iff.1 hnames)
      refine ⟨name, List.mem_of_getLast? hname, ?_, ?_⟩
      · exact (congrArg (Option.or · names.getLast?) hlast).trans hname
      · rintro ⟨n, hn, hanswered⟩
        exact absurd (List.mem_filter.2 ⟨hn, decide_eq_true hanswered⟩) (hnone ▸ List.not_mem_nil)

/-! ### Groups of channels -/

/-- Channels in groups, each of which belongs to a line. -/
structure LineGroups (names : List String) (groups : List ((String × String) × List String)) :
    Prop where
  mem_iff : ∀ name, name ∈ names ↔ ∃ g ∈ groups, name ∈ g.2
  ne_nil : ∀ g ∈ groups, g.2 ≠ []
  isChannelOf : ∀ g ∈ groups, ∀ name ∈ g.2, IsChannelOf name g.1
  disjoint : groups.Pairwise fun g g' => g.2.Disjoint g'.2

/-- The channels that are not kept. -/
def removedChannels (call : RawCallLog) (groups : List ((String × String) × List String)) :
    List String :=
  groups.flatMap fun g => CallLogsGenerator.duplicateChannels call g.2

namespace LineGroups

variable (h : LineGroups names groups) {g g' : (String × String) × List String}

include h

lemma eq_of_mem (hg : g ∈ groups) (hg' : g' ∈ groups) (hname : name ∈ g.2)
    (hname' : name ∈ g'.2) : g = g' := by
  have hsymm : Std.Symm fun g g' : (String × String) × List String => g.2.Disjoint g'.2 :=
    ⟨fun _ _ hdisj => hdisj.symm⟩
  by_contra hne
  exact h.disjoint.forall hg hg' hne hname hname'

/-- A channel is not removed exactly if its group keeps it. -/
lemma notMem_removedChannels (hg : g ∈ groups) (hname : name ∈ g.2) :
    name ∉ removedChannels call groups ↔ keptChannel call g.2 = some name := by
  simp only [removedChannels, List.mem_flatMap, duplicateChannels_eq, List.mem_filter, ne_eq,
    decide_not, Bool.not_eq_true', decide_eq_false_iff_not, not_exists, not_and, not_not]
  refine ⟨fun hall => hall g hg hname, fun hkept g' hg' hname' => ?_⟩
  rwa [h.eq_of_mem hg' hg hname' hname]

/-- The group of a channel of a line. -/
lemma exists_group (hx : x.SplitsChannels) (hname : name ∈ names) (hline : IsChannelOf name line) :
    ∃ g ∈ groups, name ∈ g.2 ∧ g.1 = line := by
  obtain ⟨g, hg, hmem⟩ := (h.mem_iff name).1 hname
  exact ⟨g, hg, hmem, hx.line_eq (h.isChannelOf g hg name hmem) hline⟩

end LineGroups

/-- The entries of the channels that the groups keep. -/
def keptEntries (call : RawCallLog) (groups : List ((String × String) × List String)) :
    Dict String RawParticipant :=
  call.rawParticipants.filter fun p => p.1 ∉ removedChannels call groups

section Groups

variable (h : LineGroups (call.rawParticipants.map Prod.fst) groups) (hx : x.SplitsChannels)
  (hkeys : (call.rawParticipants.map Prod.fst).Nodup) {g : (String × String) × List String}
  {p : String × RawParticipant}

include h

lemma mem_keptEntries (hg : g ∈ groups) (hname : p.1 ∈ g.2) :
    p ∈ keptEntries call groups ↔ p ∈ call.rawParticipants ∧ keptChannel call g.2 = some p.1 := by
  rw [keptEntries, List.mem_filter, decide_eq_true_eq, h.notMem_removedChannels hg hname]

include hkeys in
/-- Each group keeps the entry of one of its channels. -/
lemma exists_mem_keptEntries (hg : g ∈ groups) : ∃ p ∈ keptEntries call groups, p.1 ∈ g.2 ∧
    ∀ q ∈ call.rawParticipants, q.1 ∈ g.2 → q.2.answered = some true →
      p.2.answered = some true := by
  obtain ⟨name, hname, hkept, hanswered⟩ := keptChannel_spec call (h.ne_nil g hg)
  obtain ⟨p, hp, rfl⟩ := List.mem_map.1 ((h.mem_iff name).2 ⟨g, hg, hname⟩)
  refine ⟨p, (mem_keptEntries h hg hname).2 ⟨hp, hkept⟩, hname, fun q hq hqname hqanswered => ?_⟩
  have hget : ∀ r ∈ call.rawParticipants, call.rawParticipants.get? r.1 = some r.2 := fun r hr =>
    (Dict.mem_iff_get? hkeys).1 hr
  have hp' := hanswered ⟨q.1, hqname, by rw [hget q hq]; exact hqanswered⟩
  rwa [hget p hp] at hp'

include hkeys in
/-- Two groups of one line keep two channels of it. -/
lemma nodup_of_oneChannelPerLine
    (hone : OneChannelPerLine call.rawParticipants (keptEntries call groups)) :
    (groups.map Prod.fst).Nodup := by
  refine List.pairwise_map.2 (h.disjoint.imp_of_mem fun {g g'} hg hg' hdisj hfst => ?_)
  obtain ⟨p, hp, hmem, -⟩ := exists_mem_keptEntries h hkeys hg
  obtain ⟨p', hp', hmem', -⟩ := exists_mem_keptEntries h hkeys hg'
  have hline := h.isChannelOf g hg _ hmem
  have hline' : IsChannelOf p'.1 g.1 := hfst ▸ h.isChannelOf g' hg' _ hmem'
  have heq := (hone.unique g.1 ⟨p, List.mem_of_mem_filter hp, hline⟩).unique ⟨hp, hline⟩
    ⟨hp', hline'⟩
  exact hdisj hmem (heq ▸ hmem')

include hx hkeys

/-- Groups of different lines keep one channel of each line. -/
lemma oneChannelPerLine_of_nodup (hgroups : (groups.map Prod.fst).Nodup) :
    OneChannelPerLine call.rawParticipants (keptEntries call groups) := by
  have hgroup : ∀ q ∈ call.rawParticipants, ∀ line, IsChannelOf q.1 line → ∀ g ∈ groups,
      g.1 = line → q.1 ∈ g.2 := by
    rintro q hq _ hline g hg rfl
    obtain ⟨g', hg', hmem, hfst⟩ := h.exists_group hx (List.mem_map_of_mem hq) hline
    rwa [← List.inj_on_of_nodup_map hgroups hg' hg hfst]
  refine ⟨List.filter_sublist, ?_, ?_⟩
  · rintro line ⟨q, hq, hline⟩
    obtain ⟨g, hg, -, rfl⟩ := h.exists_group hx (List.mem_map_of_mem hq) hline
    obtain ⟨p, hp, hmem, -⟩ := exists_mem_keptEntries h hkeys hg
    refine ⟨p, ⟨hp, h.isChannelOf g hg _ hmem⟩, ?_⟩
    rintro p' ⟨hp', hline'⟩
    have hmem' := hgroup p' (List.mem_of_mem_filter hp') _ hline' g hg rfl
    obtain ⟨htable, hkept⟩ := (mem_keptEntries h hg hmem).1 hp
    obtain ⟨htable', hkept'⟩ := (mem_keptEntries h hg hmem').1 hp'
    exact List.inj_on_of_nodup_map hkeys htable' htable
      (Option.some.inj (hkept'.symm.trans hkept))
  · intro line p hp q hq hpline hqline
    have htable := List.mem_of_mem_filter hp
    obtain ⟨g, hg, hmem, hfst⟩ := h.exists_group hx (List.mem_map_of_mem htable) hpline
    obtain ⟨p', hp', hmem', hanswered⟩ := exists_mem_keptEntries h hkeys hg
    obtain ⟨-, hkept⟩ := (mem_keptEntries h hg hmem).1 hp
    obtain ⟨htable', hkept'⟩ := (mem_keptEntries h hg hmem').1 hp'
    obtain rfl := List.inj_on_of_nodup_map hkeys htable' htable
      (Option.some.inj (hkept'.symm.trans hkept))
    exact hanswered q hq (hgroup q hq line hqline g hg hfst)

end Groups

/-! ### Sorted names -/

/-- The lines of channels that are given by name. -/
lemma exists_lines (hx : x.SplitsChannels)
    (hnames : ∀ name ∈ names, ∃ line, IsChannelOf name line) :
    ∃ lines, (names.mapM fun name => do
        return (← x.protocolInterfaceFromChannel name, name)) = Except.ok (ε := PyError) lines ∧
      lines.map Prod.snd = names ∧ ∀ q ∈ lines, IsChannelOf q.2 q.1 := by
  induction names with
  | nil => exact ⟨[], rfl, rfl, by simp⟩
  | cons name names ih =>
      obtain ⟨line, hline⟩ := hnames name List.mem_cons_self
      obtain ⟨lines, hlines, hsnd, hall⟩ := ih fun n hn => hnames n (List.mem_cons_of_mem _ hn)
      refine ⟨(line, name) :: lines, ?_, by rw [List.map_cons, hsnd], ?_⟩
      · rw [List.mapM_cons, hlines, hx name line hline]
        rfl
      · intro q hq
        rcases List.mem_cons.1 hq with rfl | hq
        · exact hline
        · exact hall q hq

/-- The names of the channels in the groups of one line. -/
def lineGroups (lines : List ((String × String) × String)) :
    List ((String × String) × List String) :=
  (groupby Prod.fst lines).map fun g => (g.1, g.2.map Prod.snd)

lemma lineGroups_spec (hlines : ∀ q ∈ lines, IsChannelOf q.2 q.1)
    (hnodup : (lines.map Prod.snd).Nodup) (hmem : ∀ n, n ∈ names ↔ n ∈ lines.map Prod.snd) :
    LineGroups names (lineGroups lines) := by
  have hflat : (groupby Prod.fst lines).flatMap (fun g => g.2.map Prod.snd) =
      lines.map Prod.snd := by
    rw [← List.map_flatMap, flatMap_groupby]
  refine ⟨fun n => ?_, fun g hg => ?_, fun g hg name hname => ?_, ?_⟩
  · rw [hmem, ← hflat]
    simp [lineGroups]
  · obtain ⟨run, hrun, rfl⟩ := List.mem_map.1 hg
    simpa using (group_spec hrun).1
  · obtain ⟨run, hrun, rfl⟩ := List.mem_map.1 hg
    obtain ⟨q, hq, rfl⟩ := List.mem_map.1 hname
    have hmem : q ∈ lines := flatMap_groupby Prod.fst lines ▸ List.mem_flatMap_of_mem hrun hq
    exact (group_spec hrun).2 q hq ▸ hlines q hmem
  · rw [← hflat] at hnodup
    exact List.pairwise_map.2 (List.nodup_flatMap.1 hnodup).2

section Contiguous

variable (hlines : ∀ q ∈ lines, IsChannelOf q.2 q.1)
  (hsnd : lines.map Prod.snd = sortedBy id (table.map Prod.fst))

include hlines hsnd

lemma linesApart_of_contiguous (hx : x.SplitsChannels) (h : Contiguous Prod.fst lines) :
    LinesApart table := by
  have hmem : ∀ p ∈ table, p.1 ∈ lines.map Prod.snd := fun p hp =>
    hsnd ▸ mem_sortedBy.2 (List.mem_map_of_mem hp)
  intro p hp q hq r hr hpq hqr line line' hpline hrline hqline
  have hsub := sublist_of_lt (hsnd ▸ pairwise_sortedBy id _) (hmem p hp) (hmem q hq) (hmem r hr)
    hpq hqr
  obtain ⟨l, hl, hmap⟩ := List.sublist_map_iff.1 hsub
  obtain ⟨a, b, c, rfl⟩ := List.length_eq_three.1 (by simpa using congrArg List.length hmap.symm)
  simp only [List.map_cons, List.map_nil, List.cons.injEq, and_true] at hmap
  obtain ⟨ha, hb, hc⟩ := hmap
  have hline : ∀ d ∈ [a, b, c], ∀ line, IsChannelOf d.2 line → d.1 = line := fun d hd line h =>
    hx.line_eq (hlines d (hl.subset hd)) h
  have hal := hline a (by simp) line (ha ▸ hpline)
  have hbl := hline b (by simp) line' (hb ▸ hqline)
  have hcl := hline c (by simp) line (hc ▸ hrline)
  rw [← hbl, h a b c hl (hal.trans hcl.symm), hal]

lemma contiguous_of_linesApart (hkeys : (table.map Prod.fst).Nodup) (h : LinesApart table) :
    Contiguous Prod.fst lines := by
  have hsorted : (lines.map Prod.snd).Pairwise (· ≤ ·) := hsnd ▸ pairwise_sortedBy id _
  have hnodup : (lines.map Prod.snd).Nodup := hsnd ▸ (sortedBy_perm id _).nodup_iff.2 hkeys
  have hmem : ∀ name ∈ lines.map Prod.snd, ∃ p ∈ table, p.1 = name := fun name hname =>
    List.mem_map.1 (mem_sortedBy.1 (hsnd ▸ hname))
  intro a b c hsub hkey
  have hlt : [a.2, b.2, c.2].Pairwise (· < ·) :=
    (hsorted.and hnodup).imp (fun h => lt_of_le_of_ne h.1 h.2) |>.sublist (hsub.map Prod.snd)
  have hline : ∀ d ∈ [a, b, c], IsChannelOf d.2 d.1 ∧ ∃ p ∈ table, p.1 = d.2 := fun d hd =>
    ⟨hlines d (hsub.subset hd), hmem d.2 (List.mem_map_of_mem (hsub.subset hd))⟩
  obtain ⟨ha, p, hp, hpa⟩ := hline a (by simp)
  obtain ⟨hb, q, hq, hqb⟩ := hline b (by simp)
  obtain ⟨hc, r, hr, hrc⟩ := hline c (by simp)
  rw [← hpa] at ha
  rw [← hqb] at hb
  rw [← hrc, ← hkey] at hc
  refine h p hp q hq r hr ?_ ?_ a.1 b.1 ha hc hb
  · rw [hpa, hqb]
    exact List.rel_of_pairwise_cons hlt (by simp)
  · rw [hqb, hrc]
    exact List.rel_of_pairwise_cons hlt.of_cons (by simp)

/-- The channels of each line are consecutive among the sorted names exactly if those of
other lines do not sort between them. -/
lemma contiguous_iff (hx : x.SplitsChannels) (hkeys : (table.map Prod.fst).Nodup) :
    Contiguous Prod.fst lines ↔ LinesApart table :=
  ⟨linesApart_of_contiguous hlines hsnd hx, contiguous_of_linesApart hlines hsnd hkeys⟩

end Contiguous

/-! ### Duplicate participants -/

variable {gen : CallLogsGenerator}

/-- The de-duplication keeps one channel of each line, an answered one if there is any,
exactly if no channel of another line sorts between two channels of a line. -/
theorem oneChannelPerLine_iff (hx : gen.externals.SplitsChannels)
    (hnames : ∀ p ∈ call.rawParticipants, ∃ line, IsChannelOf p.1 line)
    (hkeys : (call.rawParticipants.map Prod.fst).Nodup) :
    (∃ call', gen.removeDuplicateParticipants call = .ok call' ∧
        OneChannelPerLine call.rawParticipants call'.rawParticipants) ↔
      LinesApart call.rawParticipants := by
  have hsorted : ∀ name ∈ sortedBy id (call.rawParticipants.map Prod.fst),
      ∃ line, IsChannelOf name line := by
    intro name hname
    obtain ⟨p, hp, rfl⟩ := List.mem_map.1 (mem_sortedBy.1 hname)
    exact hnames p hp
  obtain ⟨lines, hrun, hsnd, hlines⟩ := exists_lines hx hsorted
  have hgroups : LineGroups (call.rawParticipants.map Prod.fst) (lineGroups lines) :=
    lineGroups_spec hlines (hsnd ▸ (sortedBy_perm id _).nodup_iff.2 hkeys) fun n => by
      rw [hsnd, mem_sortedBy]
  have hresult : gen.removeDuplicateParticipants call =
      .ok { call with rawParticipants := keptEntries call (lineGroups lines) } := by
    refine (congrArg (· >>= _) hrun).trans ?_
    rw [keptEntries, removedChannels, lineGroups, List.flatMap_map, ← Dict.foldl_pop]
    rfl
  have hfst : (lineGroups lines).map Prod.fst = (groupby Prod.fst lines).map Prod.fst := by
    simp [lineGroups]
  rw [← contiguous_iff hlines hsnd hx hkeys, ← nodup_map_groupby_iff, ← hfst]
  constructor
  · rintro ⟨call', hcall', hone⟩
    obtain rfl := Except.ok.inj (hresult.symm.trans hcall')
    exact nodup_of_oneChannelPerLine hgroups hkeys hone
  · intro hnodup
    exact ⟨_, hresult, oneChannelPerLine_of_nodup hgroups hx hkeys hnodup⟩

/-- Two channels of the line `a`, and one of the line `a-b` between them. -/
def interleavedLines : RawCallLog :=
  { rawParticipants := [("SIP/a-00000001", {}), ("SIP/a-b-00000002", {}),
      ("SIP/a-c0000003", {})] }

lemma isChannelOf_interleavedLines :
    IsChannelOf "SIP/a-00000001" ("SIP", "a") ∧ IsChannelOf "SIP/a-b-00000002" ("SIP", "a-b") ∧
      IsChannelOf "SIP/a-c0000003" ("SIP", "a") :=
  ⟨⟨by decide, "00000001".toList, by decide, by decide⟩,
    ⟨by decide, "00000002".toList, by decide, by decide⟩,
    ⟨by decide, "c0000003".toList, by decide, by decide⟩⟩

/-- Both channels of the line `a` are kept. -/
theorem removeDuplicateParticipants_interleavedLines :
    Externals.ascii.SplitsChannels ∧
      (∀ p ∈ interleavedLines.rawParticipants, ∃ line, IsChannelOf p.1 line) ∧
      (interleavedLines.rawParticipants.map Prod.fst).Nodup ∧
      ¬ ∃ call', CallLogsGenerator.simple.removeDuplicateParticipants interleavedLines =
          .ok call' ∧
        OneChannelPerLine interleavedLines.rawParticipants call'.rawParticipants := by
  obtain ⟨hfirst, hother, hsecond⟩ := isChannelOf_interleavedLines
  refine ⟨splitsChannels_ascii, ?_, by decide, ?_⟩
  · intro p hp
    simp only [interleavedLines, List.mem_cons, List.not_mem_nil, or_false] at hp
    rcases hp with rfl | rfl | rfl
    · exact ⟨_, hfirst⟩
    · exact ⟨_, hother⟩
    · exact ⟨_, hsecond⟩
  · rintro ⟨call', hcall', hone⟩
    have hrun : CallLogsGenerator.simple.removeDuplicateParticipants interleavedLines =
        .ok interleavedLines := by decide +kernel
    obtain rfl := Except.ok.inj (hrun.symm.trans hcall')
    have heq := (hone.unique ("SIP", "a") ⟨_, List.mem_cons_self, hfirst⟩).unique
      ⟨List.mem_cons_self, hfirst⟩
      ⟨List.mem_cons_of_mem _ (List.mem_cons_of_mem _ List.mem_cons_self), hsecond⟩
    exact absurd (congrArg Prod.fst heq) (by decide)

/-- Two channels of a line, the first of which was answered. -/
def redialledLine : RawCallLog :=
  { rawParticipants := [("SIP/a-00000001", { answered := some true }), ("SIP/a-c0000003", {})] }

theorem oneChannelPerLine_redialledLine :
    (∃ call', CallLogsGenerator.simple.removeDuplicateParticipants redialledLine = .ok call' ∧
        OneChannelPerLine redialledLine.rawParticipants call'.rawParticipants) ↔
      LinesApart redialledLine.rawParticipants := by
  obtain ⟨hfirst, -, hsecond⟩ := isChannelOf_interleavedLines
  refine oneChannelPerLine_iff splitsChannels_ascii (fun p hp => ?_) (by decide)
  simp only [redialledLine, List.mem_cons, List.not_mem_nil, or_false] at hp
  rcases hp with rfl | rfl
  · exact ⟨_, hfirst⟩
  · exact ⟨_, hsecond⟩

end CallLogd
