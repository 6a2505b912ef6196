/-
The voicemail lookups of a batch: `_find_voicemail` and `_resolve_voicemail_destination`.

Confd holds the same voicemails during a batch, but each request may fail.  The cache is
then a memo table of the answers: a lookup returns what confd holds unless its own request
fails, and at most one request for each voicemail is answered
(`voicemailCache_transparent`).
-/
import CallLogd.Generator
import CallLogd.Lib.Memo
import CallLogd.Lib.Results

namespace CallLogd

/-- A lookup of a voicemail, with confd as it answers at that time. -/
structure VoicemailLookup where
  confd : Confd
  number : Option String
  context : Option String
  tenantUuid : Option String

namespace VoicemailLookup

/-- The voicemail that is looked up: without a number there is none. -/
def key (l : VoicemailLookup) : Option VoicemailKey :=
  match l.number with
  | none => none
  | some number => if number = "" then none else some (number, l.context, l.tenantUuid)

/-- The request that the lookup sends to confd, if it sends any. -/
def request (l : VoicemailLookup) (cache : VoicemailCache) : Option VoicemailKey :=
  l.key.filter fun key => cache.get? key = none

/-- An answer of confd, when there is one, is what it holds. -/
def Serves (contents : VoicemailKey → List Voicemail) (l : VoicemailLookup) : Prop :=
  ∀ key voicemails, l.confd.voicemails key = .ok voicemails → voicemails = contents key

end VoicemailLookup

/-- A confd whose voicemail requests do not fail. -/
def Confd.serving (contents : VoicemailKey → List Voicemail) : Confd :=
  { Confd.empty with voicemails := fun key => .ok (contents key) }

/-- What a lookup makes of a failed request. -/
def failedLookup : PyError → Except PyError (Option Voicemail)
  | .httpError => .ok none
  | .requestException => .ok none
  | e => .error e

/-- What a lookup makes of the answer to its request, or of a cached one. -/
def recoverLookup : Except PyError (Option Voicemail) → Except PyError (Option Voicemail)
  | .ok voicemail => .ok voicemail
  | .error e => failedLookup e

namespace CallLogsGenerator

variable (gen : CallLogsGenerator)

/-- `_find_voicemail`, while confd answers as in the lookup. -/
def lookUp (l : VoicemailLookup) (cache : VoicemailCache) :
    Except PyError (Option Voicemail) × VoicemailCache :=
  { gen with confd := l.confd }.findVoicemail l.number l.context l.tenantUuid cache

/-- The cache after some lookups. -/
def cacheAfter (cache : VoicemailCache) (ls : List VoicemailLookup) : VoicemailCache :=
  ls.foldl (fun cache l => (gen.lookUp l cache).2) cache

/-- The requests that some lookups send, with their answers. -/
def requestsFrom (cache : VoicemailCache) :
    List VoicemailLookup → List (VoicemailKey × Except PyError (List Voicemail))
  | [] => []
  | l :: ls =>
      ((l.request cache).map fun key => (key, l.confd.voicemails key)).toList ++
        requestsFrom (gen.lookUp l cache).2 ls

/-- What a lookup returns without a cache when its request does not fail. -/
def uncached (contents : VoicemailKey → List Voicemail) (l : VoicemailLookup) :
    Except PyError (Option Voicemail) :=
  (gen.lookUp { l with confd := .serving contents } []).1

variable {gen} {l : VoicemailLookup} {ls : List VoicemailLookup} {cache : VoicemailCache}
  {key : VoicemailKey} {contents : VoicemailKey → List Voicemail}

/-! ### One lookup -/

/-- The entry of the memo table that a lookup asks for. -/
def memoLookup (l : VoicemailLookup) (key : VoicemailKey) :
    Memo.Lookup VoicemailKey (Option Voicemail) PyError :=
  ⟨key, (l.confd.voicemails key).map List.head?⟩

lemma answer_eq_error {e : PyError} :
    (memoLookup l key).answer = .error e ↔ l.confd.voicemails key = .error e := by
  rw [memoLookup]
  cases l.confd.voicemails key <;> simp [Except.map]

lemma exists_answer_eq_ok : (∃ voicemail, (memoLookup l key).answer = .ok voicemail) ↔
    (l.confd.voicemails key).isOk = true := by
  rw [memoLookup]
  cases l.confd.voicemails key <;> simp [Except.map, Except.isOk, Except.toBool]

lemma lookUp_of_key_eq_none (h : l.key = none) : gen.lookUp l cache = (.ok none, cache) := by
  unfold lookUp findVoicemail
  unfold VoicemailLookup.key at h
  cases hnumber : l.number with
  | none => rfl
  | some number =>
      rw [hnumber] at h
      by_cases hempty : number = ""
      · simp only [hempty, if_true]
      · simp [hempty] at h

/-- The cache is a memo table. -/
lemma lookUp_of_key_eq_some (h : l.key = some key) : gen.lookUp l cache =
    (recoverLookup (Memo.lookup cache (memoLookup l key)).1,
      (Memo.lookup cache (memoLookup l key)).2) := by
  unfold VoicemailLookup.key at h
  cases hnumber : l.number with
  | none =>
      rw [hnumber] at h
      cases h
  | some number =>
      rw [hnumber] at h
      by_cases hempty : number = ""
      · simp [hempty] at h
      · obtain rfl : (number, l.context, l.tenantUuid) = key := by simpa [hempty] using h
        rw [lookUp, hnumber, findVoicemail]
        cases hget : cache.get? (number, l.context, l.tenantUuid) with
        | some voicemail =>
            rw [Memo.lookup_of_get? (l := memoLookup l _) hget]
            simp only [hempty, if_false, hget]
            rfl
        | none =>
            rw [Memo.lookup_of_sends (l := memoLookup l _) hget, memoLookup]
            simp only [hempty, if_false, hget]
            cases hanswer : l.confd.voicemails (number, l.context, l.tenantUuid) with
            | ok voicemails => rfl
            | error e => cases e <;> rfl

/-- A lookup sends a request exactly if the memo table has no answer for it. -/
lemma request_eq_some : l.request cache = some key ↔
    l.key = some key ∧ Memo.Sends cache (memoLookup l key) := by
  rw [VoicemailLookup.request, Option.filter_eq_some_iff, decide_eq_true_eq]
  rfl

/-- The value that the memo table holds for a voicemail. -/
def firstVoicemail (contents : VoicemailKey → List Voicemail) (key : VoicemailKey) :
    Option Voicemail :=
  (contents key).head?

variable (key) in
lemma answers_of_serves (h : l.Serves contents) :
    (memoLookup l key).Answers (firstVoicemail contents) := by
  intro voicemail hvoicemail
  obtain ⟨voicemails, hconfd, rfl⟩ := Results.exists_of_map_eq_ok hvoicemail
  rw [h key voicemails hconfd]
  rfl

lemma uncached_eq : gen.uncached contents l =
    .ok (l.key.bind (firstVoicemail contents)) := by
  cases hkey : l.key with
  | none =>
      rw [uncached, lookUp_of_key_eq_none (l := { l with confd := .serving contents }) hkey]
      rfl
  | some key =>
      rw [uncached, lookUp_of_key_eq_some (l := { l with confd := .serving contents }) hkey]
      rfl

/-- A failure is not cached. -/
lemma lookUp_of_error {e : PyError} (hrequest : l.request cache = some key)
    (he : l.confd.voicemails key = .error e) : gen.lookUp l cache = (failedLookup e, cache) := by
  obtain ⟨hkey, hsends⟩ := request_eq_some.1 hrequest
  rw [lookUp_of_key_eq_some hkey, Memo.lookup_of_sends hsends, answer_eq_error.2 he]
  rfl

variable (gen) in
/-- A lookup returns what confd holds, or its own request failed. -/
lemma lookUp_spec (hcache : Memo.Sound (firstVoicemail contents) cache) (hl : l.Serves contents) :
    (gen.lookUp l cache).1 = gen.uncached contents l ∨
      ∃ key e, l.request cache = some key ∧ l.confd.voicemails key = .error e ∧
        (gen.lookUp l cache).1 = failedLookup e := by
  rw [uncached_eq]
  cases hkey : l.key with
  | none => exact .inl (by rw [lookUp_of_key_eq_none hkey]; rfl)
  | some key =>
      rw [lookUp_of_key_eq_some hkey]
      rcases Memo.lookup_of_sound hcache (answers_of_serves key hl) with
        hok | ⟨e, hsends, hanswer, herror⟩
      · exact .inl (by rw [hok]; rfl)
      · refine .inr ⟨key, e, request_eq_some.2 ⟨hkey, hsends⟩, answer_eq_error.1 hanswer, ?_⟩
        rw [herror]
        rfl

/-! ### The lookups of a batch -/

/-- The entries of the memo table that some lookups ask for. -/
def memoLookups (ls : List VoicemailLookup) :
    List (Memo.Lookup VoicemailKey (Option Voicemail) PyError) :=
  ls.filterMap fun l => l.key.map (memoLookup l)

lemma memoLookups_cons_of_none (h : l.key = none) : memoLookups (l :: ls) = memoLookups ls := by
  simp [memoLookups, h]

lemma memoLookups_cons_of_some (h : l.key = some key) :
    memoLookups (l :: ls) = memoLookup l key :: memoLookups ls := by
  simp [memoLookups, h]

lemma cacheAfter_eq : gen.cacheAfter cache ls = Memo.after cache (memoLookups ls) := by
  induction ls generalizing cache with
  | nil => rfl
  | cons l ls ih =>
      have hcons : gen.cacheAfter cache (l :: ls) = gen.cacheAfter (gen.lookUp l cache).2 ls := rfl
      rw [hcons, ih]
      cases hkey : l.key with
      | none => rw [lookUp_of_key_eq_none hkey, memoLookups_cons_of_none hkey]
      | some key =>
          rw [lookUp_of_key_eq_some hkey, memoLookups_cons_of_some hkey, Memo.after_cons]

lemma sound_cacheAfter (hls : ∀ l ∈ ls, l.Serves contents) :
    Memo.Sound (firstVoicemail contents) (gen.cacheAfter [] ls) := by
  rw [cacheAfter_eq]
  refine Memo.sound_after Memo.sound_nil fun m hm => ?_
  obtain ⟨l, hl, hkey⟩ := List.mem_filterMap.1 hm
  obtain ⟨key, -, rfl⟩ := Option.map_eq_some_iff.1 hkey
  exact answers_of_serves key (hls l hl)

/-- The requests that are answered are those of the memo table. -/
lemma countP_requestsFrom : (gen.requestsFrom cache ls).countP (fun r => r.1 = key ∧ r.2.isOk) =
    (Memo.run cache (memoLookups ls)).countP (Memo.Seen.answered key) := by
  induction ls generalizing cache with
  | nil => rfl
  | cons l ls ih =>
      rw [requestsFrom, List.countP_append, ih]
      cases hkey : l.key with
      | none =>
          have hrequest : l.request cache = none := by
            rw [VoicemailLookup.request, hkey]
            rfl
          rw [lookUp_of_key_eq_none hkey, memoLookups_cons_of_none hkey, hrequest]
          exact Nat.zero_add _
      | some k =>
          rw [lookUp_of_key_eq_some hkey, memoLookups_cons_of_some hkey, Memo.run,
            List.countP_cons, Nat.add_comm]
          congr 1
          by_cases hsends : Memo.Sends cache (memoLookup l k)
          · rw [request_eq_some.2 ⟨hkey, hsends⟩, Option.map_some, Option.toList_some,
              List.countP_singleton]
            refine if_congr ?_ rfl rfl
            rw [Memo.answered_iff, exists_answer_eq_ok, decide_eq_true_eq]
            exact and_congr_right fun _ => (and_iff_right hsends).symm
          · have hrequest : l.request cache = none := by
              refine Option.eq_none_iff_forall_ne_some.2 fun k' hk' => hsends ?_
              obtain ⟨hkey', hsends'⟩ := request_eq_some.1 hk'
              rwa [Option.some.inj (hkey.symm.trans hkey')]
            rw [hrequest, if_neg fun h => hsends (Memo.answered_iff.1 h).2.1]
            rfl

/-! ### The voicemail of a call -/

variable {call call' : RawCallLog} {confd : Confd}

/-- The lookup of a call that reached a voicemail. -/
def lookupOfCall (confd : Confd) (call : RawCallLog) : VoicemailLookup :=
  ⟨confd, call.voicemailNumber, call.voicemailContext, call.tenantUuid⟩

/-- A call makes one lookup, if it reached a voicemail and was not answered. -/
lemma resolveVoicemailDestination_eq : gen.resolveVoicemailDestination call cache =
    if call.reachedVoicemail = true ∧ call.dateAnswer = none then
      ((gen.lookUp (lookupOfCall gen.confd call) cache).1.map (supersedeDestination call),
        (gen.lookUp (lookupOfCall gen.confd call) cache).2)
    else (.ok call, cache) := by
  unfold resolveVoicemailDestination
  by_cases h : call.reachedVoicemail = true ∧ call.dateAnswer = none
  · rw [if_pos h, if_neg (by simp [h.1, h.2])]
    rfl
  · rw [if_neg h, if_pos]
    rcases not_and_or.1 h with hreached | hanswer
    · exact .inl (by simpa using hreached)
    · exact .inr hanswer

variable (gen) in
/-- The destination changes only if the call was not answered and confd holds its
voicemail. -/
lemma resolveVoicemailDestination_spec
    (hcache : Memo.Sound (firstVoicemail contents) cache)
    (hserves : (lookupOfCall gen.confd call).Serves contents)
    (hcall : (gen.resolveVoicemailDestination call cache).1 = .ok call') :
    call' = call ∨ (call.reachedVoicemail = true ∧ call.dateAnswer = none ∧ ∃ voicemail,
      gen.uncached contents (lookupOfCall gen.confd call) = .ok (some voicemail) ∧
        call' = supersedeDestination call (some voicemail)) := by
  rw [resolveVoicemailDestination_eq] at hcall
  split at hcall
  · next h =>
    obtain ⟨found, hfound, rfl⟩ := Results.exists_of_map_eq_ok hcall
    cases found with
    | none => exact .inl rfl
    | some voicemail =>
        refine .inr ⟨h.1, h.2, voicemail, ?_, rfl⟩
        rcases lookUp_spec gen hcache hserves with hok | ⟨key, e, -, -, herror⟩
        · exact hok ▸ hfound
        · rw [herror] at hfound
          cases e <;> cases hfound
  · exact .inl (Except.ok.inj hcall).symm

variable (gen) in
/-- The cache of a batch is that of the lookups of its calls. -/
lemma exists_cacheAfter_addCall (batch : Batch) (group : Finset String × List CEL) :
    ∃ ls, (gen.addCall batch group).voicemailCache = gen.cacheAfter batch.voicemailCache ls ∧
      ∀ l ∈ ls, l.confd = gen.confd := by
  have hnone : ∃ ls, batch.voicemailCache = gen.cacheAfter batch.voicemailCache ls ∧
      ∀ l ∈ ls, l.confd = gen.confd := ⟨[], rfl, by simp⟩
  unfold addCall
  split
  · exact hnone
  · simp only [callLogOfGroup]
    split
    · exact hnone
    · next call _ =>
      rw [resolveVoicemailDestination_eq]
      split
      · exact ⟨[lookupOfCall gen.confd call], rfl, by simp [lookupOfCall]⟩
      · exact hnone

variable (gen) in
/-- The cache of a batch is the one that its lookups leave. -/
theorem exists_cacheAfter_foldl_addCall (groups : List (Finset String × List CEL)) (batch : Batch) :
    ∃ ls, (groups.foldl gen.addCall batch).voicemailCache =
        gen.cacheAfter batch.voicemailCache ls ∧ ∀ l ∈ ls, l.confd = gen.confd := by
  induction groups generalizing batch with
  | nil => exact ⟨[], rfl, by simp⟩
  | cons group groups ih =>
      obtain ⟨ls, hls, hconfd⟩ := exists_cacheAfter_addCall gen batch group
      obtain ⟨ls', hls', hconfd'⟩ := ih (gen.addCall batch group)
      refine ⟨ls ++ ls', ?_, fun l hl => ?_⟩
      · rw [List.foldl_cons, hls', hls]
        exact (List.foldl_append).symm
      · exact (List.mem_append.1 hl).elim (hconfd l) (hconfd' l)

variable (gen contents) in
/-- The cache shows in no lookup of a batch.  A lookup returns what confd holds, or else
its own request failed; a failure is not cached, at most one request for each voicemail is
answered, and only an unanswered call whose voicemail was found is changed. -/
theorem voicemailCache_transparent (hls : ∀ l ∈ ls, l.Serves contents) :
    (∀ done l rest, ls = done ++ l :: rest →
      ((gen.lookUp l (gen.cacheAfter [] done)).1 = gen.uncached contents l ∨
        ∃ key e, l.request (gen.cacheAfter [] done) = some key ∧
          l.confd.voicemails key = .error e ∧
          (gen.lookUp l (gen.cacheAfter [] done)).1 = failedLookup e) ∧
      ∀ key e, l.request (gen.cacheAfter [] done) = some key →
        l.confd.voicemails key = .error e → gen.cacheAfter [] (done ++ [l]) =
          gen.cacheAfter [] done) ∧
    (∀ key, (gen.requestsFrom [] ls).countP (fun r => r.1 = key ∧ r.2.isOk) ≤ 1) ∧
    ∀ confd call call', (lookupOfCall confd call).Serves contents →
      ({ gen with confd := confd }.resolveVoicemailDestination call
        (gen.cacheAfter [] ls)).1 = .ok call' →
      call' = call ∨ (call.reachedVoicemail = true ∧ call.dateAnswer = none ∧ ∃ voicemail,
        gen.uncached contents (lookupOfCall confd call) = .ok (some voicemail) ∧
          call' = supersedeDestination call (some voicemail)) := by
  refine ⟨?_, fun key => ?_, fun confd call call' hserves hcall => ?_⟩
  · rintro done l rest rfl
    have hdone : ∀ l ∈ done, l.Serves contents := fun l' hl' =>
      hls l' (List.mem_append_left _ hl')
    refine ⟨lookUp_spec gen (sound_cacheAfter hdone) (hls l (by simp)), fun key e hrequest he => ?_⟩
    have happend : gen.cacheAfter [] (done ++ [l]) = (gen.lookUp l (gen.cacheAfter [] done)).2 := by
      simp [cacheAfter]
    rw [happend, lookUp_of_error hrequest he]
  · rw [countP_requestsFrom]
    exact Memo.countP_answered_le_one
  · exact resolveVoicemailDestination_spec { gen with confd := confd } (sound_cacheAfter hls)
      hserves hcall

/-- A lookup whose request fails, and the same lookup again. -/
def retriedLookups : List VoicemailLookup :=
  [⟨{ Confd.empty with voicemails := fun _ => .error .requestException }, some "1001",
      some "default", some "tenant"⟩,
    ⟨.serving fun _ => [⟨7, "Harry"⟩], some "1001", some "default", some "tenant"⟩]

theorem voicemailCache_transparent_retriedLookups :
    (CallLogsGenerator.simple.requestsFrom [] retriedLookups).countP
      (fun r => r.1 = ("1001", some "default", some "tenant") ∧ r.2.isOk) ≤ 1 := by
  refine (voicemailCache_transparent .simple (fun _ => [⟨7, "Harry"⟩])
    fun l hl => ?_).2.1 _
  simp only [retriedLookups, List.mem_cons, List.not_mem_nil, or_false] at hl
  rcases hl with rfl | rfl
  · rintro key voicemails ⟨⟩
  · rintro key voicemails ⟨⟩
    rfl

end CallLogsGenerator

end CallLogd
