import BuildTriage.Downstream
import BuildTriage.Proofs.BuildOrder
import BuildTriage.Proofs.Migration.Marks

/-!
# Downstream builds of several finders

The answers of the finders, taken in turn, make one line of builds; the union keeps the first
place of each. So finders that are asked later only add to the end, and a finder that is asked
once more adds nothing. A finder that reads graphs answers in the order of the last graph of the
root, from which the root is left out wherever it stands; one that looks for the builds that name
the root as their parent answers in the order of builds.
-/

namespace BuildTriage

section FirstPlaces

variable {builds more rest : List BuildRef} {b c : BuildRef}

/-- Where a new build stands behind others, it comes after each of them. -/
theorem idxOf_concat_lt_iff {x : BuildRef} (hx : x ∉ builds) (hb : b ∈ builds ++ [x])
    (hc : c ∈ builds ++ [x]) :
    (builds ++ [x]).idxOf b < (builds ++ [x]).idxOf c ↔
      b ∈ builds ∧ (c ∈ builds → builds.idxOf b < builds.idxOf c) := by
  have hnew : (builds ++ [x]).idxOf x = builds.length := by
    rw [List.idxOf_append_of_notMem hx, List.idxOf_cons_self, Nat.add_zero]
  by_cases hbold : b ∈ builds
  · have hblt := List.idxOf_lt_length_of_mem hbold
    rw [List.idxOf_append_of_mem hbold]
    by_cases hcold : c ∈ builds
    · rw [List.idxOf_append_of_mem hcold]
      exact ⟨fun hlt => ⟨hbold, fun _ => hlt⟩, fun h => h.2 hcold⟩
    · obtain rfl : c = x := by simpa [hcold] using hc
      rw [hnew]
      exact iff_of_true hblt ⟨hbold, fun h => absurd h hcold⟩
  · obtain rfl : b = x := by simpa [hbold] using hb
    have hclt := List.idxOf_lt_length_of_mem hc
    rw [List.length_append, List.length_singleton] at hclt
    rw [hnew]
    exact iff_of_false (by omega) fun h => hbold h.1

/-- Builds stand in the order of their first places. -/
theorem idxOf_eraseDups_lt_iff (hb : b ∈ builds) (hc : c ∈ builds) :
    builds.eraseDups.idxOf b < builds.eraseDups.idxOf c ↔ builds.idxOf b < builds.idxOf c := by
  induction builds using List.reverseRecOn with
  | nil => exact absurd hb List.not_mem_nil
  | append_singleton builds x ih =>
    rw [eraseDups_concat]
    by_cases hx : x ∈ builds
    · have hold : ∀ d ∈ builds ++ [x], d ∈ builds := by
        intro d hd
        rcases List.mem_append.mp hd with hd | hd
        · exact hd
        · exact List.mem_singleton.mp hd ▸ hx
      rw [if_pos hx, List.idxOf_append_of_mem (hold b hb), List.idxOf_append_of_mem (hold c hc)]
      exact ih (hold b hb) (hold c hc)
    · have hmem : ∀ d, d ∈ builds.eraseDups ++ [x] ↔ d ∈ builds ++ [x] := by
        intro d
        rw [List.mem_append, List.mem_append, List.mem_eraseDups]
      have hx' : x ∉ builds.eraseDups := fun h => hx (List.mem_eraseDups.mp h)
      rw [if_neg hx, idxOf_concat_lt_iff hx hb hc,
        idxOf_concat_lt_iff hx' ((hmem b).mpr hb) ((hmem c).mpr hc), List.mem_eraseDups,
        List.mem_eraseDups]
      exact and_congr_right fun hbold => forall_congr' fun hcold => ih hbold hcold

/-- Builds that have stood before change nothing. -/
theorem eraseDups_absorb (h : ∀ b ∈ more, b ∈ builds) :
    (builds ++ (more ++ rest)).eraseDups = (builds ++ rest).eraseDups := by
  have hnone : more.removeAll builds = [] := by
    refine List.filter_eq_nil_iff.mpr fun b hb => ?_
    simp [h b hb]
  rw [List.eraseDups_append, List.eraseDups_append]
  simp only [List.removeAll, List.filter_append] at *
  rw [hnone, List.nil_append]

end FirstPlaces

namespace FlowGraphs

/-- The graphs that were recorded one after the other. -/
def recordAll (recorded : List (BuildRef × List Invocation)) : FlowGraphs :=
  recorded.foldl (fun g graph => g.record graph.1 graph.2) empty

/-- The last graph that was recorded for a build has these vertices. -/
def Latest (g : FlowGraphs) (root : BuildRef) (vertices : List Invocation) : Prop :=
  ∃ before after, g = recordAll (before ++ (root, vertices) :: after) ∧ root ∉ after.map Prod.fst

variable {g : FlowGraphs} {root b : BuildRef} {vertices : List Invocation}

theorem recordAll_eq (recorded : List (BuildRef × List Invocation)) :
    recordAll recorded = ⟨recorded.reverse⟩ := by
  induction recorded using List.reverseRecOn with
  | nil => rfl
  | append_singleton recorded graph ih =>
    rw [recordAll, List.foldl_append, ← recordAll, ih, List.reverse_concat]
    rfl

/-- The last graph that was recorded for a build is the one that is looked up. -/
theorem latest_iff : g.Latest root vertices ↔ g.graphs.lookup root = some vertices := by
  rw [List.lookup_eq_some_iff]
  constructor
  · rintro ⟨before, after, rfl, hlast⟩
    refine ⟨after.reverse, before.reverse, ?_, fun graph hgraph => ?_⟩
    · rw [recordAll_eq, List.reverse_append, List.reverse_cons, List.append_assoc]
      rfl
    · rw [bne_iff_ne]
      rintro rfl
      exact hlast (List.mem_map_of_mem (List.mem_reverse.mp hgraph))
  · rintro ⟨later, earlier, hgraphs, hlast⟩
    refine ⟨earlier.reverse, later.reverse, ?_, ?_⟩
    · rw [recordAll_eq, List.reverse_append, List.reverse_cons, List.reverse_reverse,
        List.reverse_reverse, List.append_assoc]
      cases g
      exact congrArg _ hgraphs
    · rw [List.mem_map]
      rintro ⟨graph, hgraph, rfl⟩
      exact bne_iff_ne.mp (hlast graph (List.mem_reverse.mp hgraph)) rfl

theorem vertices_of_latest (h : g.Latest root vertices) : g.vertices root = vertices := by
  rw [FlowGraphs.vertices, latest_iff.mp h]
  rfl

/-- A build for which no graph was recorded has no vertices. -/
theorem vertices_of_unrecorded (h : ∀ vertices, ¬g.Latest root vertices) :
    g.vertices root = [] := by
  have hnone : g.graphs.lookup root = none :=
    Option.eq_none_iff_forall_ne_some.mpr fun vertices hlookup =>
      h vertices (latest_iff.mpr hlookup)
  rw [FlowGraphs.vertices, hnone]
  rfl

/-- The builds that a graph leads to are those of its vertices that ran, other than the root. -/
theorem mem_downstream_iff :
    b ∈ g.downstream root ↔
      b ≠ root ∧ ∃ vertices, g.Latest root vertices ∧ .ran b ∈ vertices := by
  have hran : ∀ v : Invocation, v.build? = some b ↔ v = .ran b := by
    intro v
    cases v <;> simp [Invocation.build?]
  have hmem : b ∈ g.downstream root ↔ b ≠ root ∧ .ran b ∈ g.vertices root := by
    simp [downstream, hran, and_comm]
  rw [hmem]
  refine and_congr_right fun _ => ⟨fun hvertex => ?_, ?_⟩
  · by_cases hlatest : ∃ vertices, g.Latest root vertices
    · obtain ⟨vertices, hlatest⟩ := hlatest
      exact ⟨vertices, hlatest, vertices_of_latest hlatest ▸ hvertex⟩
    · rw [vertices_of_unrecorded (not_exists.mp hlatest)] at hvertex
      exact absurd hvertex List.not_mem_nil
  · rintro ⟨vertices, hlatest, hvertex⟩
    exact vertices_of_latest hlatest ▸ hvertex

end FlowGraphs

namespace BuildStore

variable {s : BuildStore} {root b : BuildRef}

theorem startedBy_parent_iff {i : BuildInfo} :
    i.startedBy root = true ↔ i.parent = some ⟨root.project, root.number⟩ := by
  unfold BuildInfo.startedBy
  cases i.parent with
  | none => simp
  | some p => cases p; simp

/-- A build is found in a store exactly if what is known of it names the root as its parent. -/
theorem mem_startedBy_iff (h : s.Ordered) :
    b ∈ s.startedBy root ↔
      ∃ info, s.info b = .ok info ∧ info.parent = some ⟨root.project, root.number⟩ := by
  constructor
  · intro hb
    obtain ⟨r, hr, rfl⟩ := List.mem_map.mp hb
    obtain ⟨hmem, hparent⟩ := List.mem_filter.mp hr
    exact ⟨r.info, h.info_iff.mpr ⟨r, hmem, rfl, rfl⟩, startedBy_parent_iff.mp hparent⟩
  · rintro ⟨info, hinfo, hparent⟩
    obtain ⟨r, hr, rfl, rfl⟩ := h.info_iff.mp hinfo
    exact List.mem_map.mpr ⟨r, List.mem_filter.mpr ⟨hr, startedBy_parent_iff.mpr hparent⟩, rfl⟩

/-- The builds that are found in a store stand in the order of builds. -/
theorem startedBy_sorted (h : s.Ordered) (root : BuildRef) :
    (s.startedBy root).Pairwise fun a b => a.precedes b = true :=
  h.sublist (List.filter_sublist.map _)

end BuildStore

namespace DownstreamFinder

variable {finders front back : List DownstreamFinder} {f : DownstreamFinder} {root b : BuildRef}

/-- The answers of finders, taken in turn. -/
def inTurn (finders : List DownstreamFinder) (root : BuildRef) : List BuildRef :=
  finders.flatMap (find root)

theorem inTurn_append (front back : List DownstreamFinder) (root : BuildRef) :
    inTurn (front ++ back) root = inTurn front root ++ inTurn back root := List.flatMap_append

/-- Adding the builds that are not there yet keeps the first place of each. -/
theorem addNew_eraseDups (builds more : List BuildRef) :
    addNew builds.eraseDups more = (builds ++ more).eraseDups := by
  induction more generalizing builds with
  | nil =>
    rw [List.append_nil]
    rfl
  | cons b more ih =>
    have hstep : (if builds.eraseDups.contains b then builds.eraseDups
        else builds.eraseDups ++ [b]) = (builds ++ [b]).eraseDups := by
      rw [eraseDups_concat]
      simp
    rw [addNew, List.foldl_cons, hstep, ← addNew, ih, List.append_assoc, List.singleton_append]

/-- The union of finders is what they answer in turn, each build in its first place. -/
theorem findAll_eq (finders : List DownstreamFinder) (root : BuildRef) :
    findAll finders root = (inTurn finders root).eraseDups := by
  induction finders using List.reverseRecOn with
  | nil => rfl
  | append_singleton finders f ih =>
    have hone : inTurn [f] root = f.find root := List.flatMap_singleton ..
    rw [findAll, List.foldl_append, ← findAll, ih, List.foldl_cons, List.foldl_nil,
      addNew_eraseDups, inTurn_append, hone]

/-- Finders that are asked later add to the end. -/
theorem findAll_isPrefix (front back : List DownstreamFinder) (root : BuildRef) :
    findAll front root <+: findAll (front ++ back) root := by
  rw [findAll_eq, findAll_eq, inTurn_append, List.eraseDups_append]
  exact List.prefix_append _ _

/-- A finder that was asked before adds nothing. -/
theorem findAll_again (hf : f ∈ front) :
    findAll (front ++ f :: back) root = findAll (front ++ back) root := by
  have hknown : ∀ b ∈ f.find root, b ∈ inTurn front root :=
    fun b hb => List.mem_flatMap.mpr ⟨f, hf, hb⟩
  have hcons : inTurn (f :: back) root = f.find root ++ inTurn back root := List.flatMap_cons ..
  rw [findAll_eq, findAll_eq, inTurn_append, inTurn_append, hcons, eraseDups_absorb hknown]

/-- A finder knows that a build was set off by the root. -/
def Knows (root b : BuildRef) : DownstreamFinder → Prop
  | .flow graphs => b ≠ root ∧ ∃ vertices, graphs.Latest root vertices ∧ .ran b ∈ vertices
  | .parents store =>
    ∃ info, store.info b = .ok info ∧ info.parent = some ⟨root.project, root.number⟩

/-- What a finder is to answer. -/
inductive Answers (root : BuildRef) : DownstreamFinder → List BuildRef → Prop where
  /-- No graph was recorded for the root. -/
  | unrecorded {graphs : FlowGraphs} (h : ∀ vertices, ¬graphs.Latest root vertices) :
    Answers root (.flow graphs) []
  /-- The builds of the last graph of the root, in the order of the graph and without the root. -/
  | graph {graphs : FlowGraphs} {vertices : List Invocation} (h : graphs.Latest root vertices) :
    Answers root (.flow graphs) ((vertices.filterMap Invocation.build?).filter (· != root))
  /-- The builds that name the root as their parent, in the order of builds. -/
  | parents {store : BuildStore} {builds : List BuildRef}
    (hsorted : builds.Pairwise fun a b => a.precedes b = true)
    (hmem : ∀ b, b ∈ builds ↔ Knows root b (.parents store)) :
    Answers root (.parents store) builds

/-- A finder over a store that is in order answers the builds that it knows. -/
theorem mem_find_iff (hordered : ∀ store, f = .parents store → store.Ordered) :
    b ∈ f.find root ↔ f.Knows root b := by
  cases f with
  | flow graphs => exact FlowGraphs.mem_downstream_iff
  | parents store => exact BuildStore.mem_startedBy_iff (hordered store rfl)

/-- A finder over a store that is in order answers what it is to answer. -/
theorem answers_find (hordered : ∀ store, f = .parents store → store.Ordered) (root : BuildRef) :
    f.Answers root (f.find root) := by
  cases f with
  | flow graphs =>
    by_cases hlatest : ∃ vertices, graphs.Latest root vertices
    · obtain ⟨vertices, hlatest⟩ := hlatest
      rw [find, FlowGraphs.downstream, FlowGraphs.vertices_of_latest hlatest]
      exact .graph hlatest
    · have hnone := not_exists.mp hlatest
      rw [find, FlowGraphs.downstream, FlowGraphs.vertices_of_unrecorded hnone]
      exact .unrecorded hnone
  | parents store =>
    have hstore := hordered store rfl
    exact .parents (BuildStore.startedBy_sorted hstore root)
      fun _ => BuildStore.mem_startedBy_iff hstore

/-- The union of what finders know of the builds that a root set off. -/
structure Union (finders : List DownstreamFinder) (root : BuildRef) (union : List BuildRef) :
    Prop where
  /-- No build is in it twice. -/
  nodup : union.Nodup
  /-- The builds in it are those that a finder knows. -/
  mem_iff : ∀ b, b ∈ union ↔ ∃ f ∈ finders, f.Knows root b
  /-- Each finder answers what it is to answer. -/
  answers : ∀ f ∈ finders, f.Answers root (f.find root)
  /-- Builds stand in the order of their first places in the answers, taken in turn. -/
  order : ∀ b ∈ union, ∀ c ∈ union,
    union.idxOf b < union.idxOf c ↔ (inTurn finders root).idxOf b < (inTurn finders root).idxOf c
  /-- More finders add to the end. -/
  more : ∀ others, union <+: findAll (finders ++ others) root
  /-- A finder that is asked again, at any later time, changes nothing. -/
  again : ∀ front back, finders = front ++ back → ∀ f ∈ front,
    findAll (front ++ f :: back) root = union

/-- The downstream builds that any finders find, over any recorded graphs and over any stores, are
the union of what they know, in the order in which they answer. -/
theorem findAll_union (hmade : ∀ store, .parents store ∈ finders → store.Made) (root : BuildRef) :
    Union finders root (findAll finders root) := by
  have hordered : ∀ f ∈ finders, ∀ store, f = .parents store → store.Ordered := by
    rintro _ hf store rfl
    exact (hmade store hf).ordered
  have hmem : ∀ b, b ∈ findAll finders root ↔ b ∈ inTurn finders root := by
    intro b
    rw [findAll_eq, List.mem_eraseDups]
  constructor
  case nodup =>
    rw [findAll_eq]
    exact nodup_eraseDups _
  case mem_iff =>
    intro b
    rw [hmem, inTurn, List.mem_flatMap]
    refine exists_congr fun f => and_congr_right fun hf => ?_
    exact mem_find_iff (hordered f hf)
  case answers => exact fun f hf => answers_find (hordered f hf) root
  case order =>
    intro b hb c hc
    rw [findAll_eq]
    exact idxOf_eraseDups_lt_iff ((hmem b).mp hb) ((hmem c).mp hc)
  case more => exact fun others => findAll_isPrefix finders others root
  case again =>
    rintro front back rfl f hf
    exact findAll_again hf

/-- A root whose graph was recorded twice. The last one repeats a build, has the root in its
midst, and has a vertex that never ran. -/
def sampleGraphs : FlowGraphs :=
  .recordAll [(⟨"root", 3⟩, [.ran ⟨"old", 1⟩]), (⟨"other", 1⟩, [.ran ⟨"old", 2⟩]),
    (⟨"root", 3⟩, [.ran ⟨"test", 9⟩, .ran ⟨"root", 3⟩, .failed "cancelled", .ran ⟨"child", 2⟩,
      .ran ⟨"test", 9⟩])]

/-- A store with two builds that name the root as their parent, entered against their order, and
one that does not. -/
def sampleStore : BuildStore :=
  let child : BuildInfo := { BuildInfo.bare ⟨"child", 2⟩ .failure with parent := some ⟨"root", 3⟩ }
  let early : BuildInfo := { BuildInfo.bare ⟨"apart", 7⟩ .success with parent := some ⟨"root", 3⟩ }
  ((BuildStore.empty.insert child ["x"]).insert early []).insert (.bare ⟨"root", 3⟩ .failure) []

/-- Both finders, each of them twice. -/
def sampleFinders : List DownstreamFinder :=
  [.flow sampleGraphs, .parents sampleStore, .parents sampleStore, .flow sampleGraphs]

/-- The builds of the graph come first. -/
theorem findAll_union_sample :
    sampleStore.Made ∧ Union sampleFinders ⟨"root", 3⟩ (findAll sampleFinders ⟨"root", 3⟩) ∧
    findAll sampleFinders ⟨"root", 3⟩ = [⟨"test", 9⟩, ⟨"child", 2⟩, ⟨"apart", 7⟩] := by
  have hstore : sampleStore.Made := .insert (.insert (.insert .empty _ _) _ _) _ _
  have hmade : ∀ store, .parents store ∈ sampleFinders → store.Made := by
    intro store hmem
    simp only [sampleFinders, List.mem_cons, reduceCtorEq, DownstreamFinder.parents.injEq,
      List.not_mem_nil, or_false, false_or, or_self] at hmem
    exact hmem ▸ hstore
  exact ⟨hstore, findAll_union hmade ⟨"root", 3⟩, by decide +kernel⟩

end DownstreamFinder

end BuildTriage
