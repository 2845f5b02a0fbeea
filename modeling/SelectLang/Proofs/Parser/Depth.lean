import SelectLang.Proofs.Parser.Locality
import Mathlib.Data.Fintype.Card
import Mathlib.Data.Finset.Prod
import Mathlib.Data.Nat.Find

namespace SelectLang.Parser

variable {ν : Type}

-- A parser and the scope that it runs in.
abbrev Site (ν : Type) := Scope ν × Parser ν

-- The sites that a run at a site may pass control to.
def children (scope : Scope ν) : Parser ν → List (Site ν)
  | seq ps      => ps.map (scope, ·)
  | choice ps   => ps.map (scope, ·)
  | map _ p     => [(scope, p)]
  | action _ p  => [(scope, p)]
  | fix l p     => [((l, p) :: scope, p)]
  | standIn l   => (scope.resolve? l).toList.map fun (body, around) => (around, body)
  | _           => []

mutual

-- The sites of all parsers that a parser is built of.
def sites (scope : Scope ν) : Parser ν → List (Site ν)
  | seq ps      => (scope, seq ps) :: sitesAll scope ps
  | choice ps   => (scope, choice ps) :: sitesAll scope ps
  | map f p     => (scope, map f p) :: sites scope p
  | action f p  => (scope, action f p) :: sites scope p
  | fix l p     => (scope, fix l p) :: sites ((l, p) :: scope) p
  | p           => [(scope, p)]

def sitesAll (scope : Scope ν) : List (Parser ν) → List (Site ν)
  | []      => []
  | p :: ps => sites scope p ++ sitesAll scope ps

end

mutual

theorem length_sites (scope : Scope ν) : (p : Parser ν) → (sites scope p).length = p.size
  | seq ps     => by simp [sites, size, length_sitesAll scope ps]
  | choice ps  => by simp [sites, size, length_sitesAll scope ps]
  | map _ p    => by simp [sites, size, length_sites scope p]
  | action _ p => by simp [sites, size, length_sites scope p]
  | fix l p    => by simp [sites, size, length_sites ((l, p) :: scope) p]
  | literal _ | predicate .. | any | empty | commit | fail _ | standIn _ | dangling => by
    simp [sites, size]

theorem length_sitesAll (scope : Scope ν) :
    (ps : List (Parser ν)) → (sitesAll scope ps).length = sizes ps
  | []      => rfl
  | p :: ps => by simp [sitesAll, sizes, length_sites scope p, length_sitesAll scope ps]

end

theorem mem_sites (scope : Scope ν) (p : Parser ν) : (scope, p) ∈ sites scope p := by
  cases p <;> simp [sites]

theorem map_sub_sitesAll (scope : Scope ν) (ps : List (Parser ν)) :
    ps.map (scope, ·) ⊆ sitesAll scope ps := by
  induction ps with
  | nil => exact List.Subset.refl _
  | cons p ps ih =>
    simp only [List.map_cons, sitesAll, List.cons_subset, List.mem_append]
    exact ⟨.inl (mem_sites scope p), fun _ h => List.mem_append_right _ (ih h)⟩

-- All that the stand-ins of a scope stand for lies in a set of sites.
def Covers (S : List (Site ν)) (scope : Scope ν) : Prop :=
  ∀ ⦃label body around⦄, scope.resolve? label = some (body, around) → (around, body) ∈ S

theorem Covers.cons {S : List (Site ν)} {scope : Scope ν} (h : Covers S scope) (label : Label)
    {body : Parser ν} (hb : ((label, body) :: scope, body) ∈ S) :
    Covers S ((label, body) :: scope) := by
  intro l body' around hl
  simp only [Scope.resolve?] at hl
  split at hl
  case isTrue  => cases hl; exact hb
  case isFalse => exact h hl

theorem Covers.children_standIn {S : List (Site ν)} {scope : Scope ν} (h : Covers S scope)
    (label : Label) : children scope (standIn label) ⊆ S := by
  intro c hc
  simp only [children, List.mem_map, Option.mem_toList] at hc
  obtain ⟨_, hl, rfl⟩ := hc
  exact h hl

mutual

-- Control stays within the sites of a parser, if its scope does not lead out of them.
theorem children_sub {S : List (Site ν)} {scope : Scope ν} (hs : Covers S scope) :
    (p : Parser ν) → sites scope p ⊆ S → ∀ c ∈ sites scope p, children c.1 c.2 ⊆ S
  | seq ps, hp | choice ps, hp => by
    simp only [sites, List.cons_subset, List.forall_mem_cons] at hp ⊢
    exact ⟨fun _ h => hp.2 (map_sub_sitesAll scope ps h), childrenAll_sub hs ps hp.2⟩
  | map _ p, hp | action _ p, hp => by
    simp only [sites, List.cons_subset, List.forall_mem_cons] at hp ⊢
    exact ⟨by simpa [children] using hp.2 (mem_sites scope p), children_sub hs p hp.2⟩
  | fix l p, hp => by
    simp only [sites, List.cons_subset, List.forall_mem_cons] at hp ⊢
    have hb := hp.2 (mem_sites _ p)
    exact ⟨by simpa [children] using hb, children_sub (hs.cons l hb) p hp.2⟩
  | standIn l, _ => by simpa [sites] using hs.children_standIn l
  | literal _, _ | predicate .., _ | any, _ | empty, _ | commit, _ | fail _, _ | dangling, _ => by
    simp [sites, children]

theorem childrenAll_sub {S : List (Site ν)} {scope : Scope ν} (hs : Covers S scope) :
    (ps : List (Parser ν)) → sitesAll scope ps ⊆ S →
      ∀ c ∈ sitesAll scope ps, children c.1 c.2 ⊆ S
  | [], _ => by simp [sitesAll]
  | p :: ps, hp => by
    simp only [sitesAll, List.append_subset, List.forall_mem_append] at hp ⊢
    exact ⟨children_sub hs p hp.1, childrenAll_sub hs ps hp.2⟩

end

variable {depth : Nat} {scope : Scope ν} {p : Parser ν} {s : State} {r : Reply (Value ν)}

-- A run that none of its children needs the full depth for does not need it either.
theorem RunsIn.lower (h : RunsIn (depth + 2) scope p s r)
    (hc : ∀ ⦃scope' p'⦄, (scope', p') ∈ children scope p →
      ∀ ⦃s' : State⦄ ⦃r'⦄, s'.remaining <:+ s.remaining →
        RunsIn (depth + 1) scope' p' s' r' → RunsIn depth scope' p' s' r') :
    RunsIn (depth + 1) scope p s r := by
  have refl (s : State) := List.suffix_refl s.remaining
  generalize hd : depth + 2 = d at h
  induction h <;> cases hd
  case literal           => exact .literal
  case predicate         => exact .predicate
  case any               => exact .any
  case empty             => exact .empty
  case commit            => exact .commit
  case fail              => exact .fail
  case dangling          => exact .dangling
  case seqNil            => exact .seqNil
  case choiceNil         => exact .choiceNil
  case unbound h         => exact .unbound h
  case seqStop h _       => exact .seqStop (hc (by simp [children]) (refl _) h)
  case choiceFit h _     => exact .choiceFit (hc (by simp [children]) (refl _) h)
  case choiceCut hf h _  => exact .choiceCut (hc (by simp [children]) (refl _) h) hf
  case map h _           => exact .map (hc (by simp [children]) (refl _) h)
  case action h _        => exact .action (hc (by simp [children]) (refl _) h)
  case fix h _           => exact .fix (hc (by simp [children]) (refl _) h)
  case standIn hl h _    => exact .standIn hl (hc (by simp [children, hl]) (refl _) h)
  case seqCons h _ _ hi =>
    refine .seqCons (hc (by simp [children]) (refl _) h) (hi ?_ rfl)
    intro _ _ hm _ _ hs
    exact hc (List.mem_cons_of_mem _ hm) (hs.trans h.remaining_suffix)
  case choiceSkip hf h _ _ hi =>
    refine .choiceSkip (hc (by simp [children]) (refl _) h) hf (hi ?_ rfl)
    exact fun _ _ hm => hc (List.mem_cons_of_mem _ hm)

-- At this site a run over these tokens ends, and needs more than the given depth by one.
structure Needs (depth : Nat) (site : Site ν) (ts : List Token) : Prop where
  ends     : ∃ r, RunsIn (depth + 1) site.1 site.2 (.start ts) r
  exceeds  : ∀ r, ¬RunsIn depth site.1 site.2 (.start ts) r

theorem Runs.exists_needs (h : Runs scope p s r) :
    ∃ depth, Needs depth (scope, p) s.remaining := by
  have ⟨depth, h⟩ := h
  obtain ⟨r, h, -⟩ := h.exists_alike (State.remaining_start _).symm
  have hd : ∃ depth, ∃ r, RunsIn depth scope p (.start s.remaining) r := ⟨depth, r, h⟩
  classical
  cases hm : Nat.find hd
  case zero =>
    have ⟨_, h⟩ := hm ▸ Nat.find_spec hd
    nomatch h
  case succ n =>
    refine ⟨n, hm ▸ Nat.find_spec hd, fun r h => ?_⟩
    exact Nat.find_min hd (hm ▸ Nat.lt_succ_self n) ⟨r, h⟩

theorem Needs.exists_child {site : Site ν} {ts : List Token} (h : Needs (depth + 1) site ts) :
    ∃ site' ∈ children site.1 site.2, ∃ ts', ts' <:+ ts ∧ Needs depth site' ts' := by
  by_contra hc
  have ⟨r, hr⟩ := h.ends
  refine h.exceeds r (hr.lower fun scope' p' hm s' r' hs hr' => ?_)
  by_contra hn
  obtain ⟨q, hq, -⟩ := hr'.exists_alike (State.remaining_start _).symm
  refine hc ⟨_, hm, _, hs, ⟨q, hq⟩, fun q hq => ?_⟩
  obtain ⟨q, hq, -⟩ := hq.exists_alike (State.remaining_start _)
  exact hn (hq.deterministic hr' ▸ hq)

theorem Needs.exists_below {S : List (Site ν)} (hS : ∀ c ∈ S, children c.1 c.2 ⊆ S)
    {site : Site ν} {ts : List Token} (h : Needs depth site ts) (hm : site ∈ S) {k : Nat}
    (hk : k ≤ depth) : ∃ site' ∈ S, ∃ ts', ts' <:+ ts ∧ Needs k site' ts' := by
  induction depth generalizing site ts with
  | zero => exact ⟨site, hm, ts, List.suffix_refl ts, Nat.le_zero.mp hk ▸ h⟩
  | succ depth ih =>
    cases Nat.eq_or_lt_of_le hk
    case inl hk => exact ⟨site, hm, ts, List.suffix_refl ts, hk ▸ h⟩
    case inr hk =>
      have ⟨site', hm', ts', hs', h'⟩ := h.exists_child
      have ⟨site'', hm'', ts'', hs'', h''⟩ := ih h' (hS site hm hm') (Nat.le_of_lt_succ hk)
      exact ⟨site'', hm'', ts'', hs''.trans hs', h''⟩

theorem Needs.le {depth' : Nat} {site : Site ν} {ts : List Token} (h : Needs depth site ts)
    (h' : Needs depth' site ts) : depth ≤ depth' := by
  by_contra hd
  have ⟨r, hr⟩ := h'.ends
  exact h.exceeds r (hr.mono (by omega))

-- A run that ends does not come back to a site before it has consumed a token, so that
-- no two of the runs inside of it need the same depth at one site in one place.
theorem Needs.lt {S : List (Site ν)} (hS : ∀ c ∈ S, children c.1 c.2 ⊆ S) {site : Site ν}
    {ts : List Token} (h : Needs depth site ts) (hm : site ∈ S) :
    depth < S.length * (ts.length + 1) := by
  classical
  have hb (k : Fin (depth + 1)) := h.exists_below hS hm (Nat.le_of_lt_succ k.isLt)
  choose site' hm' ts' hs' hn' using hb
  let place (k : Fin (depth + 1)) := (site' k, (ts' k).length)
  have hp : ∀ k ∈ Finset.univ, place k ∈ S.toFinset ×ˢ Finset.range (ts.length + 1) := by
    intro k _
    simp only [place, Finset.mem_product, List.mem_toFinset, Finset.mem_range]
    exact ⟨hm' k, Nat.lt_succ_of_le (hs' k).length_le⟩
  have hi : Set.InjOn place (Finset.univ : Finset (Fin (depth + 1))) := by
    intro k _ l _ he
    have ⟨hsite, hlength⟩ := Prod.mk.inj he
    have hts : ts' k = ts' l :=
      (List.suffix_of_suffix_length_le (hs' k) (hs' l) hlength.le).eq_of_length hlength
    have hk := hsite ▸ hts ▸ hn' k
    exact Fin.ext <| Nat.le_antisymm (hk.le (hn' l)) ((hn' l).le hk)
  have hc := Finset.card_le_card_of_injOn place hp hi
  rw [Finset.card_univ, Fintype.card_fin, Finset.card_product, Finset.card_range] at hc
  exact hc.trans (Nat.mul_le_mul_right _ S.toFinset_card_le)

-- The bound on the depth of a run does not cut off any run that ends.
theorem run_eq_some_iff : p.run s = some r ↔ Runs [] p s r := by
  constructor
  case mp => exact fun h => ⟨_, .of_runWithin h⟩
  case mpr =>
    intro h
    have hn : Covers (sites [] p) [] := by simp [Covers, Scope.resolve?]
    have hs := children_sub hn p (List.Subset.refl _)
    have ⟨depth, hd⟩ := h.exists_needs
    have hb := hd.lt hs (mem_sites [] p)
    have ⟨r', hr⟩ := hd.ends
    obtain ⟨r', hr, -⟩ := hr.exists_alike (State.remaining_start _)
    cases Runs.deterministic h ⟨_, hr⟩
    rw [length_sites] at hb
    exact (hr.mono hb).runWithin_eq

end SelectLang.Parser
