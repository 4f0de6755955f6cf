import ConstellationGate.Lib.Spans
import ConstellationGate.Resilience.Admission

/-!
# What the rate limiter lets through

The limiter keeps one counter for a key, that of the window of its last accepted call.  At times
that do not decrease, this counter is the number of calls accepted in the present window, and no
later window has one yet (`Counted`).  So a call is accepted exactly when fewer than the limit were
accepted in its window before (`rate_limit`), and a refused caller that waits for the time it was
told is accepted, and not before (`retryAfter_exact`).
-/

namespace ConstellationGate

/-- A call of `allow`. -/
structure AllowCall where
  key : String
  now : ℚ

/-- The times of the calls for `key`. -/
def timesFor (key : String) (calls : List AllowCall) : List ℚ :=
  (calls.filter fun call => call.key = key).map AllowCall.now

namespace FixedWindowRateLimiter

variable (limiter : FixedWindowRateLimiter)

/-- The limiter after calls of `allow`, one after the other. -/
def after (calls : List AllowCall) : FixedWindowRateLimiter :=
  calls.foldl (fun limiter call => (limiter.allow call.key call.now).2) limiter

/-- The calls of `allow` that return. -/
def accepted : FixedWindowRateLimiter → List AllowCall → List AllowCall
  | _, [] => []
  | limiter, call :: calls =>
    let (outcome, limiter') := limiter.allow call.key call.now
    if outcome.toBool then call :: limiter'.accepted calls else limiter'.accepted calls

/-- How many of the times lie in the window `index`. -/
def countInWindow (times : List ℚ) (index : ℤ) : ℕ :=
  times.countP fun t => decide (limiter.windowIndex t = index)

/-! ### One call -/

/-- The limiter with one call more. -/
def counting (key : String) (now : ℚ) : FixedWindowRateLimiter :=
  let index := limiter.windowIndex now
  { limiter with counters := limiter.counters.set key (index, limiter.countFor key index + 1) }

/-- A call counts itself when its window has room, and is refused otherwise. -/
lemma allow_cases (key : String) (now : ℚ) :
    limiter.countFor key (limiter.windowIndex now) < limiter.maxRequests ∧
        limiter.allow key now = (.ok (), limiter.counting key now) ∨
      limiter.maxRequests ≤ limiter.countFor key (limiter.windowIndex now) ∧
        (limiter.allow key now).1 ≠ .ok () ∧ (limiter.allow key now).2 = limiter := by
  rw [allow]
  rcases Nat.lt_or_ge (limiter.countFor key (limiter.windowIndex now)) limiter.maxRequests with
    hroom | hfull
  · exact Or.inl ⟨hroom, if_neg (Nat.not_le.2 hroom)⟩
  · simp only [if_pos hfull]
    exact Or.inr ⟨hfull, by simp⟩

/-- A call is accepted when its window has room. -/
lemma allow_ok_iff (key : String) (now : ℚ) : (limiter.allow key now).1 = .ok () ↔
    limiter.countFor key (limiter.windowIndex now) < limiter.maxRequests := by
  rcases limiter.allow_cases key now with ⟨hroom, heq⟩ | ⟨hfull, hrefused, -⟩
  · rw [heq]
    exact ⟨fun _ => hroom, fun _ => rfl⟩
  · exact ⟨fun h => absurd h hrefused, fun h => absurd h (Nat.not_lt.2 hfull)⟩

@[simp] lemma maxRequests_allow (key : String) (now : ℚ) :
    (limiter.allow key now).2.maxRequests = limiter.maxRequests := by
  rcases limiter.allow_cases key now with ⟨-, heq⟩ | ⟨-, -, heq⟩
  · rw [heq]
    rfl
  · rw [heq]

@[simp] lemma windowSeconds_allow (key : String) (now : ℚ) :
    (limiter.allow key now).2.windowSeconds = limiter.windowSeconds := by
  rcases limiter.allow_cases key now with ⟨-, heq⟩ | ⟨-, -, heq⟩
  · rw [heq]
    rfl
  · rw [heq]

/-- A call touches no counter but its own. -/
lemma get?_allow {key key' : String} (hkey : key' ≠ key) (now : ℚ) :
    (limiter.allow key now).2.counters.get? key' = limiter.counters.get? key' := by
  rcases limiter.allow_cases key now with ⟨-, heq⟩ | ⟨-, -, heq⟩
  · rw [heq]
    exact (Dict.get?_set _ _ _ _).trans (if_neg hkey)
  · rw [heq]

lemma windowIndex_mono {t t' : ℚ} (h : t ≤ t') : limiter.windowIndex t ≤ limiter.windowIndex t' :=
  Int.floor_le_floor (div_le_div_of_nonneg_right h limiter.windowSeconds_pos.le)

/-! ### The calls of other keys -/

/-- Two limiters of the same limit and window that have the same counter for `key`. -/
structure AgreeOn (key : String) (limiter limiter' : FixedWindowRateLimiter) : Prop where
  maxRequests : limiter.maxRequests = limiter'.maxRequests
  windowSeconds : limiter.windowSeconds = limiter'.windowSeconds
  counter : limiter.counters.get? key = limiter'.counters.get? key

namespace AgreeOn

variable {key : String} {limiter limiter' : FixedWindowRateLimiter}

lemma windowIndex (h : AgreeOn key limiter limiter') (t : ℚ) :
    limiter.windowIndex t = limiter'.windowIndex t := by
  rw [FixedWindowRateLimiter.windowIndex, FixedWindowRateLimiter.windowIndex, h.windowSeconds]

lemma countFor (h : AgreeOn key limiter limiter') (index : ℤ) :
    limiter.countFor key index = limiter'.countFor key index := by
  rw [FixedWindowRateLimiter.countFor, FixedWindowRateLimiter.countFor, h.counter]

lemma retryAfter (h : AgreeOn key limiter limiter') (index : ℤ) (now : ℚ) :
    limiter.retryAfter index now = limiter'.retryAfter index now := by
  rw [FixedWindowRateLimiter.retryAfter, FixedWindowRateLimiter.retryAfter, h.windowSeconds]

/-- Such limiters answer alike, and they go on agreeing. -/
lemma allow (h : AgreeOn key limiter limiter') (now : ℚ) :
    (limiter.allow key now).1 = (limiter'.allow key now).1 ∧
      AgreeOn key (limiter.allow key now).2 (limiter'.allow key now).2 := by
  have hanswer : (limiter.allow key now).1 = (limiter'.allow key now).1 := by
    unfold FixedWindowRateLimiter.allow
    simp only [h.windowIndex, h.countFor, h.maxRequests, h.retryAfter]
    split
    · rfl
    · rfl
  refine ⟨hanswer, by simp [h.maxRequests], by simp [h.windowSeconds], ?_⟩
  have hindex := h.windowIndex now
  have hcount := h.countFor (limiter'.windowIndex now)
  rcases limiter.allow_cases key now with ⟨-, heq⟩ | ⟨-, hrefused, heq⟩
  · rcases limiter'.allow_cases key now with ⟨-, heq'⟩ | ⟨-, hrefused', -⟩
    · rw [heq, heq']
      simp only [counting, Dict.get?_set_self, hindex, hcount]
    · rw [heq] at hanswer
      exact absurd hanswer.symm hrefused'
  · rcases limiter'.allow_cases key now with ⟨-, heq'⟩ | ⟨-, -, heq'⟩
    · rw [heq'] at hanswer
      exact absurd hanswer hrefused
    · rw [heq, heq']
      exact h.counter

/-- A call for another key. -/
lemma other (h : AgreeOn key limiter limiter') {key' : String} (hkey : key' ≠ key) (now : ℚ) :
    AgreeOn key (limiter.allow key' now).2 limiter' where
  maxRequests := (limiter.maxRequests_allow key' now).trans h.maxRequests
  windowSeconds := (limiter.windowSeconds_allow key' now).trans h.windowSeconds
  counter := (limiter.get?_allow hkey.symm now).trans h.counter

/-- The calls of other keys can be left out. -/
lemma after (h : AgreeOn key limiter limiter') (calls : List AllowCall) :
    AgreeOn key (limiter.after calls)
      (limiter'.after (calls.filter fun call => call.key = key)) := by
  induction calls generalizing limiter limiter' with
  | nil => exact h
  | cons call calls ih =>
    by_cases hkey : call.key = key
    · rw [List.filter_cons, if_pos (decide_eq_true hkey)]
      subst hkey
      exact ih (h.allow call.now).2
    · rw [List.filter_cons, if_neg (by simpa using hkey)]
      exact ih (h.other hkey call.now)

end AgreeOn

/-! ### The counters of a run -/

/-- The counter of each key is the number of its accepted calls in the window of `now`, no later
window has an accepted call, and no window has more of them than the limit. -/
structure Counted (limiter : FixedWindowRateLimiter) (calls : List AllowCall) (now : ℚ) : Prop where
  past : ∀ call ∈ calls, call.now ≤ now
  countFor_eq : ∀ key index, limiter.windowIndex now ≤ index →
    limiter.countFor key index = limiter.countInWindow (timesFor key calls) index
  count_le : ∀ key index,
    limiter.countInWindow (timesFor key calls) index ≤ limiter.maxRequests

/-- A limiter that was just made has counted nothing. -/
lemma counted_new {limiter : FixedWindowRateLimiter} (hnew : limiter.counters = Dict.empty)
    (now : ℚ) : Counted limiter [] now where
  past _ h := by cases h
  countFor_eq _ _ _ := by
    rw [countFor, hnew]
    rfl
  count_le _ _ := Nat.zero_le _

namespace Counted

variable {limiter : FixedWindowRateLimiter} {calls : List AllowCall} {now : ℚ}

/-- Time passes. -/
lemma later (h : Counted limiter calls now) {now' : ℚ} (hle : now ≤ now') :
    Counted limiter calls now' where
  past call hcall := (h.past call hcall).trans hle
  countFor_eq key index hindex :=
    h.countFor_eq key index ((limiter.windowIndex_mono hle).trans hindex)
  count_le := h.count_le

/-- A counter after a call that is counted. -/
lemma countFor_counting (limiter : FixedWindowRateLimiter) (key key' : String) (now : ℚ)
    (index : ℤ) : (limiter.counting key now).countFor key' index =
      if key' = key then
        if limiter.windowIndex now = index then limiter.countFor key index + 1 else 0
      else limiter.countFor key' index := by
  rw [countFor, counting]
  simp only [Dict.get?_set]
  by_cases hkey : key' = key
  · rw [if_pos hkey, if_pos hkey]
    by_cases hindex : limiter.windowIndex now = index
    · simp [hindex]
    · simp [hindex]
  · rw [if_neg hkey, if_neg hkey, countFor]

/-- The calls of a window after one more. -/
lemma countInWindow_concat (limiter : FixedWindowRateLimiter) (key : String)
    (calls : List AllowCall) (call : AllowCall) (index : ℤ) :
    limiter.countInWindow (timesFor key (calls ++ [call])) index =
      limiter.countInWindow (timesFor key calls) index +
        if call.key = key ∧ limiter.windowIndex call.now = index then 1 else 0 := by
  rw [timesFor, List.filter_append, List.map_append, countInWindow, List.countP_append]
  congr 1
  by_cases hkey : call.key = key
  · simp [hkey]
  · simp [hkey]

/-- No window that has not begun has a call. -/
lemma countInWindow_eq_zero (h : Counted limiter calls now) (key : String) {index : ℤ}
    (hindex : limiter.windowIndex now < index) :
    limiter.countInWindow (timesFor key calls) index = 0 := by
  refine List.countP_eq_zero.2 fun t ht heq => ?_
  obtain ⟨call, hcall, rfl⟩ := List.mem_map.1 ht
  have hle := limiter.windowIndex_mono (h.past call (List.mem_of_mem_filter hcall))
  rw [of_decide_eq_true heq] at hle
  exact absurd hindex (not_lt.2 hle)

/-- A call is accepted and counted. -/
lemma counting (h : Counted limiter calls now) {key : String}
    (hroom : limiter.countFor key (limiter.windowIndex now) < limiter.maxRequests) :
    Counted (limiter.counting key now) (calls ++ [⟨key, now⟩]) now where
  past call hcall := by
    rcases List.mem_append.1 hcall with hcall | hcall
    · exact h.past call hcall
    · rw [List.mem_singleton.1 hcall]
  countFor_eq key' index hindex := by
    change limiter.windowIndex now ≤ index at hindex
    change _ = limiter.countInWindow _ index
    rw [countFor_counting, countInWindow_concat]
    by_cases hkey : key' = key
    · subst hkey
      rcases hindex.eq_or_lt with heq | hlt
      · rw [if_pos rfl, if_pos heq, if_pos ⟨rfl, heq⟩, h.countFor_eq key' index hindex]
      · -- the counter of the present window says nothing of a later one
        rw [if_pos rfl, if_neg hlt.ne, if_neg fun hand => hlt.ne hand.2,
          h.countInWindow_eq_zero key' hlt]
    · rw [if_neg hkey, if_neg fun hand => hkey hand.1.symm, h.countFor_eq key' index hindex]
      rfl
  count_le key' index := by
    change limiter.countInWindow _ index ≤ limiter.maxRequests
    rw [countInWindow_concat]
    split
    · rename_i hand
      obtain ⟨rfl, rfl⟩ := hand
      exact Nat.succ_le_of_lt ((h.countFor_eq key _ le_rfl).symm.trans_lt hroom)
    · exact h.count_le key' index

end Counted

/-- The calls accepted in a run. -/
lemma accepted_concat (calls : List AllowCall) (call : AllowCall) :
    limiter.accepted (calls ++ [call]) = limiter.accepted calls ++
      if (((limiter.after calls).allow call.key call.now).1).toBool then [call] else [] := by
  induction calls generalizing limiter with
  | nil =>
    simp only [accepted, List.nil_append]
    rfl
  | cons first calls ih =>
    simp only [List.cons_append, accepted, ih]
    split
    · rfl
    · rfl

/-- A run at times that do not decrease. -/
lemma counted_after {limiter : FixedWindowRateLimiter} (hnew : limiter.counters = Dict.empty)
    {calls : List AllowCall} (hmono : calls.Pairwise fun call call' => call.now ≤ call'.now)
    {now : ℚ} (hnow : ∀ call ∈ calls, call.now ≤ now) :
    Counted (limiter.after calls) (limiter.accepted calls) now := by
  induction calls using List.reverseRecOn generalizing now with
  | nil => exact counted_new hnew now
  | append_singleton calls call ih =>
    obtain ⟨hcalls, -, hlast⟩ := List.pairwise_append.1 hmono
    have hcounted := ih hcalls fun call' hmem => hlast call' hmem call List.mem_cons_self
    refine Counted.later ?_ (hnow call (by simp))
    have hafter : limiter.after (calls ++ [call]) =
        ((limiter.after calls).allow call.key call.now).2 := by
      simp [after]
    rw [hafter, accepted_concat]
    rcases (limiter.after calls).allow_cases call.key call.now with
      ⟨hroom, heq⟩ | ⟨-, hrefused, heq⟩
    · rw [heq]
      exact hcounted.counting hroom
    · have hanswer : (((limiter.after calls).allow call.key call.now).1).toBool = false := by
        cases h : ((limiter.after calls).allow call.key call.now).1 with
        | error e => rfl
        | ok u => exact absurd h hrefused
      rw [heq, hanswer, if_neg Bool.false_ne_true, List.append_nil]
      exact hcounted

@[simp] lemma maxRequests_after (calls : List AllowCall) :
    (limiter.after calls).maxRequests = limiter.maxRequests := by
  induction calls generalizing limiter with
  | nil => rfl
  | cons call calls ih => exact (ih _).trans (limiter.maxRequests_allow call.key call.now)

@[simp] lemma windowSeconds_after (calls : List AllowCall) :
    (limiter.after calls).windowSeconds = limiter.windowSeconds := by
  induction calls generalizing limiter with
  | nil => rfl
  | cons call calls ih => exact (ih _).trans (limiter.windowSeconds_allow call.key call.now)

lemma windowIndex_after (calls : List AllowCall) (t : ℚ) :
    (limiter.after calls).windowIndex t = ⌊t / limiter.windowSeconds⌋ := by
  rw [windowIndex, windowSeconds_after]

/-- The time of the last call. -/
lemma exists_last {calls : List AllowCall}
    (hmono : calls.Pairwise fun call call' => call.now ≤ call'.now) :
    ∃ now, ∀ call ∈ calls, call.now ≤ now := by
  rcases calls.eq_nil_or_concat with rfl | ⟨calls, last, rfl⟩
  · exact ⟨0, fun call hcall => by cases hcall⟩
  · rw [List.concat_eq_append] at hmono ⊢
    obtain ⟨-, -, hlast⟩ := List.pairwise_append.1 hmono
    refine ⟨last.now, fun call hcall => ?_⟩
    rcases List.mem_append.1 hcall with hcall | hcall
    · exact hlast call hcall last List.mem_cons_self
    · rw [List.mem_singleton.1 hcall]

/-- In every run of calls of a new limiter at times that do not decrease, a call is accepted if and
only if fewer than `max_requests` earlier calls for its key were accepted in its window, the calls
for other keys make no difference, and a span as long as a window has at most `2 * max_requests`
accepted calls for a key. -/
theorem rate_limit {limiter : FixedWindowRateLimiter} (hnew : limiter.counters = Dict.empty)
    {calls : List AllowCall} (hmono : calls.Pairwise fun call call' => call.now ≤ call'.now) :
    (∀ before call, before ++ [call] <+: calls →
      (((limiter.after before).allow call.key call.now).1 = .ok () ↔
        (timesFor call.key (limiter.accepted before)).countP (fun t =>
            decide (⌊t / limiter.windowSeconds⌋ = ⌊call.now / limiter.windowSeconds⌋)) <
          limiter.maxRequests) ∧
      ((limiter.after before).allow call.key call.now).1 =
        ((limiter.after (before.filter fun earlier => earlier.key = call.key)).allow
          call.key call.now).1) ∧
      ∀ key start, (timesFor key (limiter.accepted calls)).inSpan start limiter.windowSeconds ≤
        2 * limiter.maxRequests := by
  refine ⟨fun before call hpre => ⟨?_, ?_⟩, fun key start => ?_⟩
  · obtain ⟨hbefore, -, hlast⟩ := List.pairwise_append.1 (hmono.sublist hpre.sublist)
    have hcounted := counted_after hnew hbefore fun earlier hmem =>
      hlast earlier hmem call List.mem_cons_self
    rw [allow_ok_iff, hcounted.countFor_eq call.key _ le_rfl, maxRequests_after, countInWindow]
    simp only [windowIndex_after]
  · have hagree : AgreeOn call.key limiter limiter := ⟨rfl, rfl, rfl⟩
    exact ((hagree.after before).allow call.now).1
  · refine List.inSpan_le_two_mul limiter.windowSeconds_pos (fun index => ?_) start
    obtain ⟨now, hnow⟩ := exists_last hmono
    have hcount := (counted_after hnew hmono hnow).count_le key index
    rw [maxRequests_after, countInWindow] at hcount
    simpa only [windowIndex_after] using hcount

lemma one_le_one_call : 1 ≤ 1 := le_rfl

lemma minute_pos : (0 : ℚ) < 60 := by norm_num

/-- A limiter of one call a minute. -/
def onceAMinute : FixedWindowRateLimiter where
  maxRequests := 1
  windowSeconds := 60
  counters := Dict.empty
  one_le_maxRequests := one_le_one_call
  windowSeconds_pos := minute_pos

/-- The second of three calls is refused, and a minute has two accepted ones. -/
theorem rate_limit_threeCalls :
    ((onceAMinute.after [⟨"a", 0⟩]).allow "a" 30).1 ≠ .ok () ∧
      (timesFor "a" (onceAMinute.accepted [⟨"a", 0⟩, ⟨"a", 30⟩, ⟨"a", 60⟩])).inSpan 0 60 ≤ 2 * 1 ∧
      (timesFor "a" (onceAMinute.accepted [⟨"a", 0⟩, ⟨"a", 30⟩, ⟨"a", 60⟩])).inSpan 0 60 = 2 := by
  have h := @rate_limit onceAMinute rfl [⟨"a", 0⟩, ⟨"a", 30⟩, ⟨"a", 60⟩] (by decide)
  have hsecond := (h.1 [⟨"a", 0⟩] ⟨"a", 30⟩ ⟨[⟨"a", 60⟩], rfl⟩).1
  refine ⟨fun hok => absurd (hsecond.1 hok) ?_, h.2 "a" 0, by decide +kernel⟩
  decide +kernel

/-! ### The time to wait -/

/-- The end of a window is later than the times in it. -/
lemma lt_window_end (now : ℚ) :
    now < (limiter.windowIndex now + 1) * limiter.windowSeconds := by
  rw [← div_lt_iff₀ limiter.windowSeconds_pos]
  exact Int.lt_floor_add_one _

/-- The window of a time between `now` and the end of its window. -/
lemma windowIndex_eq {now t : ℚ} (hfrom : now ≤ t)
    (hto : t < (limiter.windowIndex now + 1) * limiter.windowSeconds) :
    limiter.windowIndex t = limiter.windowIndex now := by
  have hle := limiter.windowIndex_mono hfrom
  have hlt : limiter.windowIndex t < limiter.windowIndex now + 1 := by
    rw [windowIndex, Int.floor_lt, div_lt_iff₀ limiter.windowSeconds_pos]
    exact_mod_cast hto
  omega

/-- The end of a window begins the next one. -/
lemma windowIndex_window_end (index : ℤ) :
    limiter.windowIndex ((index + 1) * limiter.windowSeconds) = index + 1 := by
  rw [windowIndex, mul_div_assoc, div_self limiter.windowSeconds_pos.ne', mul_one]
  exact_mod_cast Int.floor_intCast (index + 1)

/-- A window other than that of the counter has room. -/
lemma countFor_eq_zero {key : String} {i i' : ℤ} (hcount : limiter.countFor key i ≠ 0)
    (hindex : i' ≠ i) : limiter.countFor key i' = 0 := by
  rw [countFor] at hcount ⊢
  split
  · rfl
  · rename_i stored hstored
    simp only [hstored] at hcount
    by_cases hstored' : stored.1 = i
    · rw [if_pos fun h => hindex (h.symm.trans hstored')]
    · rw [if_pos hstored'] at hcount
      exact absurd rfl hcount

/-- Whatever the state of the limiter, `decision_for` allows a call exactly when `allow` accepts it
at the same time.  When it refuses, the time to wait is positive; a call for the key before it is
over is refused, and a call when it is over is accepted, whatever is called for other keys by
then. -/
theorem retryAfter_exact (key : String) (now : ℚ) :
    ((limiter.decisionFor key now).allowed = true ↔ (limiter.allow key now).1 = .ok ()) ∧
      ((limiter.decisionFor key now).allowed = false →
        0 < (limiter.decisionFor key now).retryAfterSeconds ∧
        ∀ others : List AllowCall, (∀ call ∈ others, call.key ≠ key) →
          (∀ t, now ≤ t → t < now + (limiter.decisionFor key now).retryAfterSeconds →
            ((limiter.after others).allow key t).1 ≠ .ok ()) ∧
          ((limiter.after others).allow key
            (now + (limiter.decisionFor key now).retryAfterSeconds)).1 = .ok ()) := by
  rw [allow_ok_iff, decisionFor]
  by_cases hroom : limiter.countFor key (limiter.windowIndex now) < limiter.maxRequests
  · simp [hroom]
  rw [if_neg hroom]
  refine ⟨by simp [hroom], fun _ => ?_⟩
  have hend := limiter.lt_window_end now
  have hwait : limiter.retryAfter (limiter.windowIndex now) now =
      (limiter.windowIndex now + 1) * limiter.windowSeconds - now :=
    max_eq_right (sub_nonneg.2 hend.le)
  simp only [hwait, add_sub_cancel]
  refine ⟨sub_pos.2 hend, fun others hothers => ?_⟩
  have hagree : AgreeOn key (limiter.after others) limiter := by
    have hself : AgreeOn key limiter limiter := ⟨rfl, rfl, rfl⟩
    have hafter := hself.after others
    rwa [List.filter_eq_nil_iff.2 fun call hcall => by simpa using hothers call hcall] at hafter
  refine ⟨fun t hfrom hto => ?_, ?_⟩
  · -- the window is still the same, and it is full
    rw [(hagree.allow t).1, ne_eq, allow_ok_iff, limiter.windowIndex_eq hfrom hto]
    exact hroom
  · rw [(hagree.allow _).1, allow_ok_iff, windowIndex_window_end,
      limiter.countFor_eq_zero (i := limiter.windowIndex now)]
    · exact limiter.one_le_maxRequests
    · have hone := limiter.one_le_maxRequests
      omega
    · omega

end FixedWindowRateLimiter

end ConstellationGate
