import ChangeRelay.Graph.Bootstrap
import Mathlib.Data.List.Chain

/-!
# Paging through a snapshot

`walkFrom` reads a snapshot page by page, following each page's next token. The pages a source
gives from one token on form a chain, `Paged`: each page leads to the next until a page fails,
has no next page, or names the token it was asked with as the next one. Along a chain that ends,
a reading is a filter over the chain's pages (`walkFrom_of_paged`): it asks for each token in
turn, keeps what it wants of each page in order, and asks for a page only while it still wants
entities.

The only guard against a source that pages forever compares a page's next token with the token
it was asked with. Two calls in a row therefore never ask for the same token, and a reading ends
exactly when its chain does; a chain that comes back to an earlier token never ends
(`circlingSource`). A reading that runs out of fuel is marked exhausted, which it is exactly when
its chain does not end within that many pages (`readSnapshot_exhausted_iff`).
-/

namespace ChangeRelay

/-- The first `limit` entities of a list, all of them without a limit. -/
def keepAtMost : Option Nat → List Entity → List Entity
  | some l, xs => xs.take l
  | none, xs => xs

/-- Whether a list holds `limit` entities, never without a limit. -/
def reaches : Option Nat → List Entity → Bool
  | some l, xs => l ≤ xs.length
  | none, _ => false

theorem Walk.full_eq (w : Walk) (limit : Option Nat) : w.full limit = reaches limit w.items := by
  cases limit <;> rfl

theorem reaches_keepAtMost_append (limit : Option Nat) (xs ys : List Entity) :
    reaches limit (keepAtMost limit xs ++ ys) = reaches limit (xs ++ ys) := by
  cases limit with
  | none => rfl
  | some l =>
    simp only [reaches, keepAtMost, List.length_append, List.length_take, decide_eq_decide]
    omega

theorem keepAtMost_keepAtMost_append (limit : Option Nat) (xs ys : List Entity) :
    keepAtMost limit (keepAtMost limit xs ++ ys) = keepAtMost limit (xs ++ ys) := by
  cases limit with
  | none => rfl
  | some l =>
    simp only [keepAtMost]
    by_cases h : l ≤ xs.length
    · have hl : l ≤ (xs.take l).length := by simp [h]
      rw [List.take_append_of_le_length hl, List.take_take, Nat.min_self,
        List.take_append_of_le_length h]
    · have hx : xs.take l = xs := List.take_of_length_le (by omega)
      rw [hx]

theorem keepAtMost_append_of_reaches {limit : Option Nat} {xs : List Entity}
    (h : reaches limit xs = true) (ys : List Entity) :
    keepAtMost limit (xs ++ ys) = keepAtMost limit xs := by
  cases limit with
  | none => cases h
  | some l =>
    simp only [reaches, decide_eq_true_eq] at h
    simp [keepAtMost, List.take_append, h]

/-! ## One page at a time -/

section Steps

variable {source : PageSource} {wanted : Entity → Bool} {limit : Option Nat} {fuel : Nat}
  {token : Option String} {w : Walk}

/-- A reading that has what it wants asks for no more pages. -/
theorem walkFrom_reached (h : reaches limit w.items = true) :
    walkFrom source wanted limit (fuel + 1) token w = w := by
  simp [walkFrom, Walk.full_eq, h]

/-- A page that cannot be listed ends the reading with `listingFailed`. -/
theorem walkFrom_failed {e : RelayError} (h : reaches limit w.items = false)
    (hs : source w.calls.length token = .error e) :
    walkFrom source wanted limit (fuel + 1) token w =
      { w with calls := w.calls ++ [token], failed := some (listingFailed token e) } := by
  simp [walkFrom, Walk.full_eq, h, hs]

/-- A page that names its own token as the next one ends the reading with `stalled`. -/
theorem walkFrom_stalled {page : SnapshotPage} {next : String} (h : reaches limit w.items = false)
    (hs : source w.calls.length token = .ok page) (hn : page.nextPage = some next)
    (ht : some next = token) :
    walkFrom source wanted limit (fuel + 1) token w =
      { w with calls := w.calls ++ [token], failed := some (stalled next) } := by
  subst ht
  simp [walkFrom, Walk.full_eq, h, hs, hn]

/-- The last page adds the entities it lists that are wanted, and ends the reading. -/
theorem walkFrom_last {page : SnapshotPage} (h : reaches limit w.items = false)
    (hs : source w.calls.length token = .ok page) (hn : page.nextPage = none) :
    walkFrom source wanted limit (fuel + 1) token w =
      { w with calls := w.calls ++ [token],
               items := keepAtMost limit (w.items ++ page.entities.filter wanted) } := by
  cases limit <;> simp [walkFrom, Walk.full_eq, h, hs, hn, keepAtMost]

/-- Any other page adds the entities it lists that are wanted, and the reading goes on with the
next page. -/
theorem walkFrom_next {page : SnapshotPage} {next : String} (h : reaches limit w.items = false)
    (hs : source w.calls.length token = .ok page) (hn : page.nextPage = some next)
    (ht : some next ≠ token) :
    walkFrom source wanted limit (fuel + 1) token w =
      walkFrom source wanted limit fuel (some next)
        { w with calls := w.calls ++ [token],
                 items := keepAtMost limit (w.items ++ page.entities.filter wanted) } := by
  cases limit <;> simp [walkFrom, Walk.full_eq, h, hs, hn, ht, keepAtMost]

/-- What one more page of fuel does: nothing once the reading has what it wants; otherwise it asks
for `token`, and the page fails, stalls, is the last one, or leads on to the next token. -/
theorem walkFrom_succ_cases (source : PageSource) (wanted : Entity → Bool) (limit : Option Nat)
    (fuel : Nat) (token : Option String) (w : Walk) :
    (reaches limit w.items = true ∧ walkFrom source wanted limit (fuel + 1) token w = w) ∨
    (reaches limit w.items = false ∧ ∃ e, source w.calls.length token = .error e ∧
      walkFrom source wanted limit (fuel + 1) token w =
        { w with calls := w.calls ++ [token], failed := some (listingFailed token e) }) ∨
    (reaches limit w.items = false ∧ ∃ page next, source w.calls.length token = .ok page ∧
      page.nextPage = some next ∧ some next = token ∧
      walkFrom source wanted limit (fuel + 1) token w =
        { w with calls := w.calls ++ [token], failed := some (stalled next) }) ∨
    (reaches limit w.items = false ∧ ∃ page, source w.calls.length token = .ok page ∧
      page.nextPage = none ∧
      walkFrom source wanted limit (fuel + 1) token w =
        { w with calls := w.calls ++ [token],
                 items := keepAtMost limit (w.items ++ page.entities.filter wanted) }) ∨
    (reaches limit w.items = false ∧ ∃ page next, source w.calls.length token = .ok page ∧
      page.nextPage = some next ∧ some next ≠ token ∧
      walkFrom source wanted limit (fuel + 1) token w =
        walkFrom source wanted limit fuel (some next)
          { w with calls := w.calls ++ [token],
                   items := keepAtMost limit (w.items ++ page.entities.filter wanted) }) := by
  cases hr : reaches limit w.items
  · right
    cases hs : source w.calls.length token with
    | error e => exact .inl ⟨rfl, e, rfl, walkFrom_failed hr hs⟩
    | ok page =>
      cases hn : page.nextPage with
      | none => exact .inr (.inr (.inl ⟨rfl, page, rfl, hn, walkFrom_last hr hs hn⟩))
      | some next =>
        by_cases ht : some next = token
        · exact .inr (.inl ⟨rfl, page, next, rfl, hn, ht, walkFrom_stalled hr hs hn ht⟩)
        · exact .inr (.inr (.inr ⟨rfl, page, next, rfl, hn, ht, walkFrom_next hr hs hn ht⟩))
  · exact .inl ⟨rfl, walkFrom_reached hr⟩

end Steps

/-! ## The page chain -/

/-- How the page chain of a source goes on from the `n`-th call, which asks for `token`: the pages
it reads, each with the token it was asked for and the entities it lists, and how it ends, with
`none` after a page without a next page, or with the failure that stopped it. A page that fails,
or names its own token as the next one, lists nothing. -/
inductive Paged (source : PageSource) :
    Nat → Option String → List (Option String × List Entity) → Option RelayError → Prop
  | failed {n : Nat} {token : Option String} {e : RelayError} :
      source n token = .error e →
      Paged source n token [(token, [])] (some (listingFailed token e))
  | stalled {n : Nat} {token : Option String} {page : SnapshotPage} {next : String} :
      source n token = .ok page → page.nextPage = some next → some next = token →
      Paged source n token [(token, [])] (some (stalled next))
  | last {n : Nat} {token : Option String} {page : SnapshotPage} :
      source n token = .ok page → page.nextPage = none →
      Paged source n token [(token, page.entities)] none
  | next {n : Nat} {token : Option String} {page : SnapshotPage} {next : String}
      {pages : List (Option String × List Entity)} {o : Option RelayError} :
      source n token = .ok page → page.nextPage = some next → some next ≠ token →
      Paged source (n + 1) (some next) pages o →
      Paged source n token ((token, page.entities) :: pages) o

/-- The entities of pages that `wanted` keeps, in page and list order. -/
def keptOf (wanted : Entity → Bool) (pages : List (Option String × List Entity)) : List Entity :=
  (pages.flatMap (·.2)).filter wanted

@[simp] theorem keptOf_nil (wanted : Entity → Bool) : keptOf wanted [] = [] := rfl

@[simp] theorem keptOf_cons (wanted : Entity → Bool) (p : Option String × List Entity)
    (pages : List (Option String × List Entity)) :
    keptOf wanted (p :: pages) = p.2.filter wanted ++ keptOf wanted pages := by
  simp [keptOf, List.filter_append]

section Walk

variable {source : PageSource} {wanted : Entity → Bool} {limit : Option Nat}

/-- A reading that has what it wants before the next page stops there, with nothing more read. -/
theorem walkFrom_stop {token : Option String} {pages : List (Option String × List Entity)}
    {o : Option RelayError} {w : Walk} {fuel : Nat} (hpos : 0 < pages.length)
    (hfailed : w.failed = none) (hex : w.exhausted = false)
    (hcap : keepAtMost limit w.items = w.items) (hr : reaches limit w.items = true) :
    walkFrom source wanted limit (fuel + 1) token w =
      { calls := w.calls ++ (pages.take 0).map (·.1),
        items := keepAtMost limit (w.items ++ keptOf wanted pages),
        failed := if 0 = pages.length then o else none } := by
  rw [walkFrom_reached hr, keepAtMost_append_of_reaches hr, hcap, if_neg (by omega)]
  cases w
  simp_all

/-- A chain of one page: the reading reads it unless it already has what it wants. -/
theorem walkFrom_single {token : Option String} {es : List Entity} {o : Option RelayError}
    {w : Walk} {fuel : Nat} (hfailed : w.failed = none) (hex : w.exhausted = false)
    (hcap : keepAtMost limit w.items = w.items)
    (hstep : reaches limit w.items = false → walkFrom source wanted limit (fuel + 1) token w =
      { calls := w.calls ++ [token], items := keepAtMost limit (w.items ++ es.filter wanted),
        failed := o }) :
    ∃ k ≤ [(token, es)].length,
      walkFrom source wanted limit (fuel + 1) token w =
        { calls := w.calls ++ ([(token, es)].take k).map (·.1),
          items := keepAtMost limit (w.items ++ keptOf wanted [(token, es)]),
          failed := if k = [(token, es)].length then o else none } ∧
      (∀ j < k, reaches limit (w.items ++ keptOf wanted ([(token, es)].take j)) = false) ∧
      (k < [(token, es)].length →
        reaches limit (w.items ++ keptOf wanted ([(token, es)].take k)) = true) := by
  cases hr : reaches limit w.items
  · refine ⟨1, Nat.le_refl _, by simpa using hstep hr, fun j hj => ?_, by simp⟩
    obtain rfl : j = 0 := by omega
    simpa using hr
  · exact ⟨0, by simp, walkFrom_stop (by simp) hfailed hex hcap hr, by simp,
      fun _ => by simpa using hr⟩

/-- A reading along a page chain that ends: it reads the first `k` pages of the chain, each only
while it still wants entities, and stops after the last page, at a failure, or once it has what it
wants; it keeps what it wants of the pages it reads, up to the limit; and it reports the chain's
failure exactly when it read the whole chain. -/
theorem walkFrom_of_paged (wanted : Entity → Bool) (limit : Option Nat) {n : Nat}
    {token : Option String}
    {pages : List (Option String × List Entity)} {o : Option RelayError}
    (h : Paged source n token pages o) :
    ∀ (w : Walk) (fuel : Nat), w.calls.length = n → w.failed = none → w.exhausted = false →
      keepAtMost limit w.items = w.items → pages.length ≤ fuel →
      ∃ k ≤ pages.length,
        walkFrom source wanted limit fuel token w =
          { calls := w.calls ++ (pages.take k).map (·.1),
            items := keepAtMost limit (w.items ++ keptOf wanted pages),
            failed := if k = pages.length then o else none } ∧
        (∀ j < k, reaches limit (w.items ++ keptOf wanted (pages.take j)) = false) ∧
        (k < pages.length → reaches limit (w.items ++ keptOf wanted (pages.take k)) = true) := by
  induction h with
  | failed hs =>
    intro w fuel hn hfailed hex hcap hfuel
    obtain ⟨fuel, rfl⟩ : ∃ f, fuel = f + 1 := ⟨fuel - 1, by simp at hfuel; omega⟩
    refine walkFrom_single hfailed hex hcap fun hr => ?_
    rw [walkFrom_failed hr (hn ▸ hs)]
    cases w
    simp_all
  | stalled hs hnext hself =>
    intro w fuel hn hfailed hex hcap hfuel
    obtain ⟨fuel, rfl⟩ : ∃ f, fuel = f + 1 := ⟨fuel - 1, by simp at hfuel; omega⟩
    refine walkFrom_single hfailed hex hcap fun hr => ?_
    rw [walkFrom_stalled hr (hn ▸ hs) hnext hself]
    cases w
    simp_all
  | last hs hnone =>
    intro w fuel hn hfailed hex hcap hfuel
    obtain ⟨fuel, rfl⟩ : ∃ f, fuel = f + 1 := ⟨fuel - 1, by simp at hfuel; omega⟩
    refine walkFrom_single hfailed hex hcap fun hr => ?_
    rw [walkFrom_last hr (hn ▸ hs) hnone, hfailed, hex]
  | @next n token page next pages o hs hnext hne _ ih =>
    intro w fuel hn hfailed hex hcap hfuel
    obtain ⟨fuel, rfl⟩ : ∃ f, fuel = f + 1 := ⟨fuel - 1, by simp at hfuel; omega⟩
    cases hr : reaches limit w.items
    · let w' : Walk := { w with calls := w.calls ++ [token],
                                items := keepAtMost limit (w.items ++ page.entities.filter wanted) }
      have hcap' : keepAtMost limit w'.items = w'.items := by
        simpa using keepAtMost_keepAtMost_append limit (w.items ++ page.entities.filter wanted) []
      obtain ⟨k, hk, hwalk, hbefore, hstop⟩ :=
        ih w' fuel (by simp [w', hn]) (by simp [w', hfailed]) (by simp [w', hex]) hcap'
          (by simp at hfuel; omega)
      refine ⟨k + 1, by simp; omega, ?_, ?_, ?_⟩
      · rw [walkFrom_next hr (hn ▸ hs) hnext hne, hwalk]
        simp [w', keepAtMost_keepAtMost_append]
      · intro j hj
        cases j with
        | zero => simpa using hr
        | succ j =>
          have := hbefore j (by omega)
          simpa [w', reaches_keepAtMost_append] using this
      · intro hlt
        have := hstop (by simp at hlt; omega)
        simpa [w', reaches_keepAtMost_append] using this
    · exact ⟨0, by simp, walkFrom_stop (by simp) hfailed hex hcap hr, by simp,
      fun _ => by simpa using hr⟩

/-- A reading asks for at most one page per unit of fuel. -/
theorem length_calls_walkFrom_le :
    ∀ (fuel : Nat) (token : Option String) (w : Walk),
      (walkFrom source wanted limit fuel token w).calls.length ≤ w.calls.length + fuel
  | 0, _, w => by simp [walkFrom]
  | fuel + 1, token, w => by
    rcases walkFrom_succ_cases source wanted limit fuel token w with
      ⟨_, h⟩ | ⟨_, _, _, h⟩ | ⟨_, _, _, _, _, _, h⟩ | ⟨_, _, _, _, h⟩ | ⟨_, page, next, _, _, _, h⟩
    · rw [h]; omega
    · rw [h]; simp
    · rw [h]; simp
    · rw [h]; simp
    · rw [h]
      have := length_calls_walkFrom_le fuel (some next)
        { w with calls := w.calls ++ [token],
                 items := keepAtMost limit (w.items ++ page.entities.filter wanted) }
      simp at this
      omega

/-- Two calls in a row never ask for the same token: a page that names its own token as the next
one ends the reading. -/
theorem walkFrom_calls_isChain :
    ∀ (fuel : Nat) (token : Option String) (w : Walk), (w.calls ++ [token]).IsChain (· ≠ ·) →
      (walkFrom source wanted limit fuel token w).calls.IsChain (· ≠ ·)
  | 0, _, w, h => by simpa [walkFrom] using h.prefix (List.prefix_append _ _)
  | fuel + 1, token, w, h => by
    rcases walkFrom_succ_cases source wanted limit fuel token w with
      ⟨_, hw⟩ | ⟨_, _, _, hw⟩ | ⟨_, _, _, _, _, _, hw⟩ | ⟨_, _, _, _, hw⟩ |
        ⟨_, page, next, _, _, ht, hw⟩
    · rw [hw]; exact h.prefix (List.prefix_append _ _)
    · rw [hw]; exact h
    · rw [hw]; exact h
    · rw [hw]; exact h
    · rw [hw]
      refine walkFrom_calls_isChain fuel (some next) _ ?_
      refine h.append (List.isChain_singleton _) ?_
      simpa using fun he => ht he.symm

/-- A reading without a limit that stops before its fuel runs out, or with a failure, followed a
page chain that ends. -/
theorem paged_of_finished :
    ∀ (fuel : Nat) (token : Option String) (w : Walk), w.failed = none →
      ((walkFrom source wanted none fuel token w).calls.length < w.calls.length + fuel ∨
        (walkFrom source wanted none fuel token w).failed ≠ none) →
      ∃ pages o, Paged source w.calls.length token pages o
  | 0, _, w, hfailed, h => by simp [walkFrom, hfailed] at h
  | fuel + 1, token, w, hfailed, h => by
    rcases walkFrom_succ_cases source wanted none fuel token w with
      ⟨hr, _⟩ | ⟨_, e, hs, _⟩ | ⟨_, page, next, hs, hn, ht, _⟩ | ⟨_, page, hs, hn, _⟩ |
        ⟨_, page, next, hs, hn, ht, hw⟩
    · cases hr
    · exact ⟨_, _, .failed hs⟩
    · exact ⟨_, _, .stalled hs hn ht⟩
    · exact ⟨_, _, .last hs hn⟩
    · rw [hw] at h
      obtain ⟨pages, o, hp⟩ := paged_of_finished fuel (some next)
        { w with calls := w.calls ++ [token],
                 items := keepAtMost none (w.items ++ page.entities.filter wanted) }
        hfailed (by simpa [Nat.add_assoc, Nat.add_comm 1] using h)
      exact ⟨_, _, .next hs hn ht (by simpa using hp)⟩

/-- A reading without a limit that did not use up its fuel followed a page chain that ends within
that many pages. -/
theorem paged_of_not_exhausted :
    ∀ (fuel : Nat) (token : Option String) (w : Walk),
      (walkFrom source wanted none fuel token w).exhausted = false →
      ∃ pages o, Paged source w.calls.length token pages o ∧ pages.length ≤ fuel
  | 0, _, w, h => by simp [walkFrom] at h
  | fuel + 1, token, w, h => by
    rcases walkFrom_succ_cases source wanted none fuel token w with
      ⟨hr, _⟩ | ⟨_, e, hs, _⟩ | ⟨_, page, next, hs, hn, ht, _⟩ | ⟨_, page, hs, hn, _⟩ |
        ⟨_, page, next, hs, hn, ht, hw⟩
    · cases hr
    · exact ⟨_, _, .failed hs, by simp⟩
    · exact ⟨_, _, .stalled hs hn ht, by simp⟩
    · exact ⟨_, _, .last hs hn, by simp⟩
    · rw [hw] at h
      obtain ⟨pages, o, hp, hlen⟩ := paged_of_not_exhausted fuel (some next) _ h
      exact ⟨_, _, .next hs hn ht (by simpa using hp), by simpa using hlen⟩

end Walk

/-! ## Whole readings -/

theorem Snapshot.foldl_push (es : List Entity) : ∀ s : Snapshot,
    es.foldl Snapshot.push s =
      ⟨s.nodes ++ es.filter (!·.isRelation), s.rels ++ es.filter (·.isRelation)⟩ := by
  induction es with
  | nil => intro s; simp
  | cons e es ih =>
    intro s
    cases h : e.isRelation <;> simp [Snapshot.push, h, ih]

/-- A snapshot of a list holds its nodes and its relations, each in list order. -/
theorem Snapshot.ofList_eq (es : List Entity) :
    Snapshot.ofList es = ⟨es.filter (!·.isRelation), es.filter (·.isRelation)⟩ := by
  simp [Snapshot.ofList, Snapshot.foldl_push, Snapshot.empty]

theorem Subscription.filter_wants_nodes (s : Subscription) (es : List Entity) :
    (es.filter s.wants).filter (!·.isRelation) =
      es.filter fun e => !e.isRelation && e.hasAnyLabel s.nodeLabels := by
  rw [List.filter_filter]
  refine List.filter_congr fun e _ => ?_
  cases h : e.isRelation <;> simp [Subscription.wants, h]

theorem Subscription.filter_wants_rels (s : Subscription) (es : List Entity) :
    (es.filter s.wants).filter (·.isRelation) =
      es.filter fun e => e.isRelation && e.hasAnyLabel s.relLabels := by
  rw [List.filter_filter]
  refine List.filter_congr fun e _ => ?_
  cases h : e.isRelation <;> simp [Subscription.wants, h]

/-- An empty set of labels wants nothing. -/
@[simp] theorem Entity.hasAnyLabel_empty (e : Entity) : e.hasAnyLabel Labels.empty = false := by
  simp [Entity.hasAnyLabel, Labels.intersects, Labels.contains, Labels.empty]

/-- Every failure that ends a page chain is a bootstrap error. -/
theorem Paged.bootstrap_failure {source : PageSource} {n : Nat} {token : Option String}
    {pages : List (Option String × List Entity)} {o : Option RelayError}
    (h : Paged source n token pages o) : ∀ e, o = some e → ∃ m, e = .bootstrap m := by
  induction h with
  | failed => rintro e ⟨⟩; exact ⟨_, rfl⟩
  | stalled => rintro e ⟨⟩; exact ⟨_, rfl⟩
  | last => rintro e ⟨⟩
  | next _ _ _ _ ih => exact ih

section Readings

variable {source : PageSource} {pages : List (Option String × List Entity)}
  {o : Option RelayError} {fuel : Nat}

/-- Without a limit, a reading along a chain that ends reads every page of it, keeps what it
wants of each, and ends as the chain does. -/
theorem readSnapshot_of_paged (s : Subscription) (h : Paged source 0 none pages o)
    (hfuel : pages.length ≤ fuel) :
    readSnapshot source s none fuel =
      { calls := pages.map (·.1), items := keptOf s.wants pages, failed := o } := by
  obtain ⟨k, hk, hwalk, -, hstop⟩ := walkFrom_of_paged s.wants none h {} fuel rfl rfl rfl rfl hfuel
  have hall : k = pages.length := by
    by_contra hne
    simpa [reaches] using hstop (by omega)
  simp [readSnapshot, hwalk, hall, keepAtMost]

/-- With a limit, a reading along a chain that ends reads its pages only while it has fewer
entities than the limit. -/
theorem readSnapshot_limit_of_paged (s : Subscription) (l : Nat) (h : Paged source 0 none pages o)
    (hfuel : pages.length ≤ fuel) :
    ∃ k ≤ pages.length,
      readSnapshot source s (some l) fuel =
        { calls := (pages.take k).map (·.1), items := (keptOf s.wants pages).take l,
          failed := if k = pages.length then o else none } ∧
      (∀ j < k, (keptOf s.wants (pages.take j)).length < l) ∧
      (k < pages.length → l ≤ (keptOf s.wants (pages.take k)).length) := by
  obtain ⟨k, hk, hwalk, hbefore, hstop⟩ :=
    walkFrom_of_paged s.wants (some l) h {} fuel rfl rfl rfl (by simp [keepAtMost]) hfuel
  refine ⟨k, hk, by simpa [readSnapshot, keepAtMost] using hwalk, fun j hj => ?_, fun hlt => ?_⟩
  · simpa [reaches] using hbefore j hj
  · simpa [reaches] using hstop hlt

/-- Along a chain that ends, the whole snapshot holds what the subscription wants of every page,
or is the failure that ended the chain. -/
theorem acquireSnapshot_of_paged (s : Subscription) (h : Paged source 0 none pages o)
    (hfuel : pages.length ≤ fuel) :
    acquireSnapshot source s fuel =
      (pages.map (·.1), match o with
        | none => .ok (Snapshot.ofList (keptOf s.wants pages))
        | some e => .error e) := by
  simp only [acquireSnapshot, readSnapshot_of_paged s h hfuel]
  cases o <;> rfl

/-- A reading without a limit along a chain that never ends spends all its fuel on pages, and
never fails. -/
theorem readSnapshot_unending (s : Subscription) (h : ¬ ∃ pages o, Paged source 0 none pages o)
    (fuel : Nat) :
    (readSnapshot source s none fuel).calls.length = fuel ∧
      (readSnapshot source s none fuel).failed = none := by
  have hle : (readSnapshot source s none fuel).calls.length ≤ fuel :=
    (length_calls_walkFrom_le fuel none {}).trans_eq (Nat.zero_add fuel)
  have hrun : ¬ ((readSnapshot source s none fuel).calls.length < 0 + fuel ∨
      (readSnapshot source s none fuel).failed ≠ none) :=
    fun hfin => h (paged_of_finished fuel none {} rfl hfin)
  simp only [Nat.zero_add, not_or, not_lt, ne_eq, not_not] at hrun
  exact ⟨by omega, hrun.2⟩

/-- A reading without a limit uses up its fuel exactly when the page chain does not end within
that many pages. -/
theorem readSnapshot_exhausted_iff (s : Subscription) :
    (readSnapshot source s none fuel).exhausted = true ↔
      ∀ pages o, Paged source 0 none pages o → fuel < pages.length := by
  constructor
  · intro hex pages o hp
    refine Nat.lt_of_not_le fun hle => ?_
    rw [readSnapshot_of_paged s hp hle] at hex
    cases hex
  · intro hlong
    cases hex : (readSnapshot source s none fuel).exhausted with
    | true => rfl
    | false =>
      obtain ⟨pages, o, hp, hlen⟩ := paged_of_not_exhausted fuel none {} hex
      exact absurd (hlong pages o hp) (Nat.not_lt.2 hlen)

end Readings

/-! ## Bootstrap along a chain that ends -/

/-- Bootstrap along a page chain that ends, at a page without a next page or at a failure, with
fuel for every page of it. The whole snapshot asks for each token of the chain once, in order,
and holds the nodes of its pages that share a label with the node labels and the relations that
share one with the relation labels, each in page and list order, unless the chain ended with a
failure, which is a bootstrap error and leaves no snapshot. Reading without a limit yields the
wanted entities in their order and then the failure; reading at most `l` of them asks for a page
only while the pages before it gave fewer than `l`. An empty set of labels wants nothing. -/
theorem bootstrap_filters_page_chain (source : PageSource) (s : Subscription)
    {pages : List (Option String × List Entity)} {o : Option RelayError}
    (h : Paged source 0 none pages o) {fuel : Nat} (hfuel : pages.length ≤ fuel) :
    acquireSnapshot source s fuel =
      (pages.map (·.1), match o with
        | none => .ok ⟨(pages.flatMap (·.2)).filter fun e => !e.isRelation && e.hasAnyLabel s.nodeLabels,
            (pages.flatMap (·.2)).filter fun e => e.isRelation && e.hasAnyLabel s.relLabels⟩
        | some e => .error e) ∧
    (∀ e, o = some e → ∃ m, e = .bootstrap m) ∧
    readSnapshot source s none fuel =
      { calls := pages.map (·.1), items := (pages.flatMap (·.2)).filter s.wants, failed := o } ∧
    (∀ l, ∃ k ≤ pages.length,
      readSnapshot source s (some l) fuel =
        { calls := (pages.take k).map (·.1), items := ((pages.flatMap (·.2)).filter s.wants).take l,
          failed := if k = pages.length then o else none } ∧
      (∀ j < k, (((pages.take j).flatMap (·.2)).filter s.wants).length < l) ∧
      (k < pages.length → l ≤ (((pages.take k).flatMap (·.2)).filter s.wants).length)) ∧
    ∀ e : Entity, e.hasAnyLabel Labels.empty = false := by
  refine ⟨?_, h.bootstrap_failure, readSnapshot_of_paged s h hfuel,
    fun l => readSnapshot_limit_of_paged s l h hfuel, Entity.hasAnyLabel_empty⟩
  rw [acquireSnapshot_of_paged s h hfuel]
  cases o with
  | none =>
    simp only [keptOf, Snapshot.ofList_eq, Subscription.filter_wants_nodes,
      Subscription.filter_wants_rels]
  | some e => rfl

/-- The first page of `threePages`: two nodes and a relation. -/
def firstEntities : List Entity :=
  [.node "n1" (Labels.ofList ["Pod"]) [], .node "n2" (Labels.ofList ["Node"]) [],
    .relation "r1" (Labels.ofList ["SCHEDULED_ON"]) [] "a" "b"]

/-- The last page of `threePages`: a node and a relation. -/
def lastEntities : List Entity :=
  [.node "n3" (Labels.ofList ["Pod"]) [], .relation "r2" (Labels.ofList ["OWNS"]) [] "a" "b"]

/-- A source of three pages, the middle one empty. -/
def threePages : PageSource := fun _ token =>
  match token with
  | none => .ok { entities := firstEntities, nextPage := some "1" }
  | some "1" => .ok { nextPage := some "2" }
  | some "2" => .ok { entities := lastEntities }
  | some _ => .error (.source "snapshot" "no such page")

/-- A query for pods and their scheduling. -/
def podQuery : Subscription := ⟨"q1", "qn", Labels.ofList ["Pod"], Labels.ofList ["SCHEDULED_ON"]⟩

theorem bootstrap_three_pages :
    (Paged threePages 0 none [(none, firstEntities), (some "1", []), (some "2", lastEntities)] none ∧
      [(none, firstEntities), (some "1", []), (some "2", lastEntities)].length ≤ 3) ∧
    (acquireSnapshot threePages podQuery 3).1 = [none, some "1", some "2"] := by
  have hp : Paged threePages 0 none _ none :=
    .next rfl rfl (by decide) (.next rfl rfl (by decide) (.last rfl rfl))
  refine ⟨⟨hp, by decide⟩, ?_⟩
  rw [(bootstrap_filters_page_chain threePages podQuery hp (Nat.le_refl 3)).1]
  rfl

example : ((acquireSnapshot threePages podQuery 3).2.toOption.map fun snap =>
    (snap.nodes.map Entity.id, snap.rels.map Entity.id)) = some (["n1", "n3"], ["r1"]) := by
  decide

/-! ## When bootstrap ends -/

/-- Bootstrap ends exactly when the page chain does. Two calls in a row never ask for the same
token. Along a chain that ends, the reading asks for its tokens and no more, whatever fuel beyond
its length it has, and the whole snapshot is the same for all such fuel. Along a chain that never
ends, a reading without a limit spends all its fuel on pages and never fails: the stream goes on
and the whole snapshot is never returned. -/
theorem paging_ends_with_chain (source : PageSource) (s : Subscription) :
    (∀ limit fuel, (readSnapshot source s limit fuel).calls.IsChain (· ≠ ·)) ∧
    (∀ pages o, Paged source 0 none pages o → ∀ fuel, pages.length ≤ fuel →
      (readSnapshot source s none fuel).calls = pages.map (·.1) ∧
      acquireSnapshot source s fuel = acquireSnapshot source s pages.length) ∧
    ((¬ ∃ pages o, Paged source 0 none pages o) → ∀ fuel,
      (readSnapshot source s none fuel).calls.length = fuel ∧
        (readSnapshot source s none fuel).failed = none) := by
  refine ⟨fun limit fuel => walkFrom_calls_isChain fuel none {} (List.isChain_singleton _),
    fun pages o h fuel hfuel => ⟨?_, ?_⟩, readSnapshot_unending s⟩
  · rw [readSnapshot_of_paged s h hfuel]
  · rw [acquireSnapshot_of_paged s h hfuel, acquireSnapshot_of_paged s h (Nat.le_refl _)]

/-- A source whose pages go round between the tokens `a` and `b` after the first one. -/
def circlingSource : PageSource := fun _ token =>
  .ok { nextPage := some (if token = some "a" then "b" else "a") }

/-- No page chain of the circling source ends: no page fails, every page has a next page, and
that is never the token it was asked with. -/
theorem circlingSource_not_paged {n : Nat} {token : Option String}
    {pages : List (Option String × List Entity)} {o : Option RelayError} :
    ¬ Paged circlingSource n token pages o := by
  intro h
  induction h with
  | failed hs => cases hs
  | stalled hs hn hself =>
    cases hs
    split at hn <;> simp_all
  | last hs hn => cases hs; cases hn
  | next _ _ _ _ ih => exact ih

/-- The circling source has three tokens, yet bootstrap asks for `a` again after `b` and never
ends. -/
theorem circling_pages_repeat :
    (readSnapshot circlingSource default none 4).calls = [none, some "a", some "b", some "a"] ∧
    ∀ fuel, (readSnapshot circlingSource default none fuel).calls.length = fuel ∧
      (readSnapshot circlingSource default none fuel).failed = none := by
  refine ⟨by decide, readSnapshot_unending default ?_⟩
  rintro ⟨pages, o, h⟩
  exact circlingSource_not_paged h

end ChangeRelay
