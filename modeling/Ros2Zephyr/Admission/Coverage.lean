import Ros2Zephyr.Admission.Admit

/-!
# Which stacks an admission covers

The table of symbols is a list, and two translation units may have static objects of one name.  The
admission looks symbols up by name and sees the last one only.

* `Covered` — what an admission should have checked of a stack object.
* `Unshadowed` — no stack object is followed by another symbol of its name.
* `admission_covers_iff` — the names of a table let an admission cover every stack, whatever the
  sizes are, exactly if no stack object is shadowed.
-/

namespace Ros2Zephyr

open Fallible

section Covered

/-- The stack object is the pool of the configured extent. -/
def PoolOfExtent (slots : Except PyException (ℤ × ℤ)) (e : ElfSymbol) : Prop :=
  ∃ n each, slots = .ok (n, each) ∧ (e.size : ℤ) = n * each

/-- A stack object is a pool of the expected extent, or one of the known stacks and large enough. -/
def Covered (b : Build) (e : ElfSymbol) : Prop :=
  (b.aProfile = true ∧ e.name = "zephyr_stacks" ∧ PoolOfExtent b.cycloneSlots e) ∨
  (b.cProfile = true ∧ e.name = "nros_thread_stacks" ∧
    PoolOfExtent b.nanoRosSlots e) ∨
  ∃ s ∈ staticStacks, s.symbol = e.name ∧
    requiredBytes (b.executionBudget s) b.tlsSize b.tlsAlignment b.overhead 256
      (s.symbol == "z_interrupt_stacks") ≤ e.size

/-- The admission reports no failure about a stack. -/
def Admission.StacksPass (a : Admission) : Prop := ∀ f ∈ a.failures, f.isStackFailure = false

instance (a : Admission) : Decidable a.StacksPass :=
  inferInstanceAs (Decidable (∀ _ ∈ _, _))

/-- Every large stack object of the image is covered if the admission reports no failure about a
stack. -/
def CoversStacks (b : Build) : Prop :=
  ∀ a, b.admitImage = .ok a → a.StacksPass →
    ∀ e ∈ b.symbols, e.isStackObject = true → 256 ≤ e.size → Covered b e

/-- No stack object is followed by another symbol of its name. -/
def Unshadowed (symbols : List ElfSymbol) : Prop :=
  symbols.Pairwise fun e s => e.isStackObject = true → s.name ≠ e.name

instance (symbols : List ElfSymbol) : Decidable (Unshadowed symbols) :=
  inferInstanceAs (Decidable (List.Pairwise _ _))

end Covered

section Lookup

variable {symbols : List ElfSymbol} {e : ElfSymbol}

/-- A symbol that is not shadowed is the one that is looked up. -/
lemma lastSymbol_of_unshadowed (h : Unshadowed symbols) (he : e ∈ symbols)
    (hstack : e.isStackObject = true) : lastSymbol symbols e.name = some e := by
  obtain ⟨before, after, rfl⟩ := List.append_of_mem he
  have hafter : ∀ s ∈ after, s.name ≠ e.name := by
    intro s hs
    exact (List.pairwise_cons.mp (List.pairwise_append.mp h).2.1).1 s hs hstack
  have hnone : after.reverse.find? (fun s => s.name == e.name) = none := by
    simpa using hafter
  simp [lastSymbol, List.find?_append, hnone]

lemma mem_keptSymbols (he : e ∈ symbols) (hlast : lastSymbol symbols e.name = some e) :
    e ∈ keptSymbols symbols := by
  refine List.mem_filterMap.mpr ⟨e.name, ?_, hlast⟩
  simpa using ⟨e, he, rfl⟩

end Lookup

section Covers

variable {b : Build} {a : Admission}

/-- What an admission consists of. -/
lemma admit_inv (h : b.admitImage = .ok a) :
    ∃ r static vendor cyclone nanoRos pool, b.staticRows = .ok static ∧
      b.vendorRows = .ok vendor ∧ b.cycloneRows = .ok cyclone ∧ b.nanoRosRows = .ok nanoRos ∧
      a.rows = static ++ vendor.1 ++ cyclone.1 ++ nanoRos.1 ∧
      a.failures = vendor.2 ++ cyclone.2 ++ nanoRos.2 ++ b.finalFailures r a.rows pool := by
  unfold Build.admitImage at h
  obtain ⟨r, -, h⟩ := bind_eq_ok.mp h
  obtain ⟨static, hstatic, h⟩ := bind_eq_ok.mp h
  obtain ⟨vendor, hvendor, h⟩ := bind_eq_ok.mp h
  obtain ⟨cyclone, hcyclone, h⟩ := bind_eq_ok.mp h
  obtain ⟨nanoRos, hnanoRos, h⟩ := bind_eq_ok.mp h
  obtain ⟨pool, -, h⟩ := bind_eq_ok.mp h
  cases h
  exact ⟨r, static, vendor, cyclone, nanoRos, pool, hstatic, hvendor, hcyclone, hnanoRos, rfl, rfl⟩

/-- A failure about stacks is an unknown stack or a row that does not pass. -/
lemma finalFailures_pass_iff {r : Inventory} {rows : List (PyStr × StackBudget × PyStr)}
    {pool : ℤ} :
    (∀ f ∈ b.finalFailures r rows pool, f.isStackFailure = false) ↔
      b.unknownStacks = [] ∧ ∀ row ∈ rows, row.2.1.status = .pass := by
  have hfail : (rows.any fun row => row.2.1.status == .fail) = false ↔
      ∀ row ∈ rows, row.2.1.status = .pass := by
    have hstatus : ∀ v : Verdict, v ≠ .fail ↔ v = .pass := by
      intro v
      cases v <;> decide
    simp [hstatus]
  rw [← hfail]
  constructor
  · intro h
    constructor
    · by_contra hne
      have hmem : .stackBacking b.unknownStacks ∈ b.finalFailures r rows pool := by
        simp [Build.finalFailures, hne]
      cases h _ hmem
    · by_contra hne
      have hmem : .stackBudget ∈ b.finalFailures r rows pool := by
        rw [Bool.not_eq_false] at hne
        simp [Build.finalFailures, hne]
      cases h _ hmem
  · rintro ⟨hunknown, hrows⟩ f hf
    simp only [Build.finalFailures, hunknown, hrows, List.isEmpty_nil, if_true, Bool.false_eq_true,
      if_false, List.append_nil, List.mem_append, List.mem_ite_nil_left, List.mem_ite_nil_right,
      List.mem_singleton] at hf
    rcases hf with (((⟨-, rfl⟩ | ⟨-, rfl⟩) | ⟨-, rfl⟩) | ⟨-, rfl⟩) | ⟨-, rfl⟩
    all_goals rfl

/-- The row of a static stack is its budget with the size of the symbol that was looked up. -/
lemma exists_staticRow {static : List (PyStr × StackBudget × PyStr)} {s : StaticStack}
    {e : ElfSymbol} (h : b.staticRows = .ok static) (hs : s ∈ staticStacks)
    (hlast : lastSymbol b.symbols s.symbol = some e) :
    ∃ row ∈ static, stackBudget e.size (b.executionBudget s) b.tlsSize b.tlsAlignment b.overhead 256
      (s.symbol == "z_interrupt_stacks") = .ok row.2.1 := by
  unfold Build.staticRows at h
  obtain ⟨rows, hrows, h⟩ := bind_eq_ok.mp h
  cases h
  obtain ⟨row, hrow, heq⟩ := exists_mem_of_mapM hrows hs
  simp only [Build.staticRow, hlast] at heq
  obtain ⟨r, hr, heq⟩ := bind_eq_ok.mp heq
  cases heq
  obtain ⟨budget, hbudget, hr⟩ := bind_eq_ok.mp hr
  cases hr
  exact ⟨_, List.mem_flatten.mpr ⟨_, hrow, List.mem_singleton_self _⟩, hbudget⟩

/-- A pool without a mismatch has the expected extent. -/
lemma poolRows_extent {symbol label source : PyStr} {slots each execution : ℤ}
    {mismatch : AdmissionFailure}
    {result : List (PyStr × StackBudget × PyStr) × List AdmissionFailure}
    (h : b.poolRows symbol label source slots each execution mismatch = .ok result)
    (hpass : mismatch ∉ result.2) : (b.symbolSize symbol : ℤ) = slots * each := by
  unfold Build.poolRows at h
  obtain ⟨rows, -, h⟩ := bind_eq_ok.mp h
  cases h
  by_contra hne
  simp [hne] at hpass

lemma cyclone_extent {result : List (PyStr × StackBudget × PyStr) × List AdmissionFailure}
    (h : b.cycloneRows = .ok result) (hprofile : b.aProfile = true)
    (hpass : .cyclonePool ∉ result.2) :
    ∃ n each, b.cycloneSlots = .ok (n, each) ∧
      (b.symbolSize "zephyr_stacks" : ℤ) = n * each := by
  unfold Build.cycloneRows at h
  rw [if_pos hprofile] at h
  obtain ⟨⟨n, each⟩, hslots, h⟩ := bind_eq_ok.mp h
  obtain ⟨pool, hpool, h⟩ := bind_eq_ok.mp h
  cases h
  exact ⟨n, each, hslots, poolRows_extent hpool fun hmem => hpass (List.mem_append_right _ hmem)⟩

lemma nanoRos_extent {result : List (PyStr × StackBudget × PyStr) × List AdmissionFailure}
    (h : b.nanoRosRows = .ok result) (hprofile : b.cProfile = true)
    (hpass : .nanoRosPool ∉ result.2) :
    ∃ n each, b.nanoRosSlots = .ok (n, each) ∧
      (b.symbolSize "nros_thread_stacks" : ℤ) = n * each := by
  unfold Build.nanoRosRows at h
  rw [if_pos hprofile] at h
  obtain ⟨⟨n, each⟩, hslots, h⟩ := bind_eq_ok.mp h
  exact ⟨n, each, hslots, poolRows_extent h hpass⟩

lemma mem_allowedStacks {name : PyStr} : name ∈ b.allowedStacks ↔
    (∃ s ∈ staticStacks, s.symbol = name) ∨
      (b.aProfile = true ∧ name = "zephyr_stacks") ∨
      (b.cProfile = true ∧ name = "nros_thread_stacks") := by
  rw [Build.allowedStacks, List.mem_append, List.mem_append, List.mem_map, or_assoc]
  simp only [List.mem_ite_nil_right, List.mem_singleton]

/-- **A table without shadowed stacks is covered.** -/
lemma coversStacks_of_unshadowed (h : Unshadowed b.symbols) : CoversStacks b := by
  intro a hadmit hpass e he hstack hsize
  obtain ⟨r, static, vendor, cyclone, nanoRos, pool, hstatic, -, hcyclone, hnanoRos, hrows,
    hfailures⟩ := admit_inv hadmit
  rw [Admission.StacksPass, hfailures] at hpass
  simp only [List.forall_mem_append] at hpass
  obtain ⟨⟨⟨-, hcyclonePass⟩, hnanoRosPass⟩, hfinal⟩ := hpass
  obtain ⟨hunknown, hpassRows⟩ := finalFailures_pass_iff.mp hfinal
  have hlast := lastSymbol_of_unshadowed h he hstack
  have hsymbolSize : b.symbolSize e.name = e.size := by
    rw [Build.symbolSize, hlast]
    rfl
  have hallowed : e.name ∈ b.allowedStacks := by
    by_contra hnot
    have hmem : e.name ∈ b.unknownStacks := by
      refine List.mem_map.mpr ⟨e, List.mem_filter.mpr ⟨mem_keptSymbols he hlast, ?_⟩, rfl⟩
      simp only [ElfSymbol.isStackObject, Bool.and_eq_true] at hstack
      simp [hstack.1, hstack.2, hsize, hnot]
    rw [hunknown] at hmem
    cases hmem
  rcases mem_allowedStacks.mp hallowed with ⟨s, hs, hname⟩ | ⟨hprofile, hname⟩ | ⟨hprofile, hname⟩
  · rw [← hname] at hlast
    obtain ⟨row, hrow, hbudget⟩ := exists_staticRow hstatic hs hlast
    have hmem : row ∈ a.rows := by
      rw [hrows]
      simp [hrow]
    exact .inr (.inr ⟨s, hs, hname, (stackBudget_status hbudget).mp (hpassRows row hmem)⟩)
  · have hno : .cyclonePool ∉ cyclone.2 := fun hmem => by cases hcyclonePass _ hmem
    obtain ⟨n, each, hslots, hextent⟩ := cyclone_extent hcyclone hprofile hno
    rw [← hname, hsymbolSize] at hextent
    exact .inl ⟨hprofile, hname, n, each, hslots, hextent⟩
  · have hno : .nanoRosPool ∉ nanoRos.2 := fun hmem => by cases hnanoRosPass _ hmem
    obtain ⟨n, each, hslots, hextent⟩ := nanoRos_extent hnanoRos hprofile hno
    rw [← hname, hsymbolSize] at hextent
    exact .inr (.inl ⟨hprofile, hname, n, each, hslots, hextent⟩)

end Covers

section Shadowed

/-- The tables have the same names and types, in the same order. -/
def SameNames (table table' : List ElfSymbol) : Prop :=
  table.map (fun s => (s.name, s.type)) = table'.map fun s => (s.name, s.type)

lemma unshadowed_iff_of_sameNames {table table' : List ElfSymbol} (h : SameNames table table') :
    Unshadowed table ↔ Unshadowed table' := by
  have hnames : ∀ symbols : List ElfSymbol, Unshadowed symbols ↔
      (symbols.map fun s => (s.name, s.type)).Pairwise fun p q =>
        (p.2 == SymbolType.object && namesStack p.1) = true → q.1 ≠ p.1 := by
    intro symbols
    rw [List.pairwise_map]
    rfl
  rw [hnames, hnames, h]

/-- A symbol with a size that is beyond every budget if it is a known stack, and too small to be
reviewed otherwise. -/
def ElfSymbol.inflate (s : ElfSymbol) : ElfSymbol :=
  { s with value := 0, size := if s.name ∈ staticStacks.map StaticStack.symbol then 2 ^ 20 else 0 }

/-- A stack object of 256 bytes. -/
def ElfSymbol.deflate (s : ElfSymbol) : ElfSymbol := { s with value := 0, size := 256 }

/-- An image with no sections, no profile and the given symbols. -/
def plainBuild (symbols : List ElfSymbol) : Build where
  artifacts := c6Image []
  symbols := symbols
  unicode := PyStr.asciiOnly
  frameBytes := 0
  vendorKnown := false
  wrapperCalled := false
  callers := []
  resourceCheck := none
  mainExecutionBytes := 0

/-- The table in which the shadowed stack object is small and everything else does not matter. -/
def shadowingTable (before : List ElfSymbol) (e : ElfSymbol) (after : List ElfSymbol) :
    List ElfSymbol :=
  before.map ElfSymbol.inflate ++ e.deflate :: after.map ElfSymbol.inflate

variable {before after : List ElfSymbol} {e s : ElfSymbol}

lemma exists_shadowed {table : List ElfSymbol} (h : ¬ Unshadowed table) :
    ∃ before e after, table = before ++ e :: after ∧ e.isStackObject = true ∧
      ∃ s ∈ after, s.name = e.name := by
  rw [Unshadowed, List.pairwise_iff_forall_sublist] at h
  push Not at h
  obtain ⟨e, s, hsub, hstack, hname⟩ := h
  obtain ⟨left, right, rfl, he, hs⟩ := List.cons_sublist_iff.mp hsub
  obtain ⟨before, rest, rfl⟩ := List.append_of_mem he
  refine ⟨before, e, rest ++ right, by simp, hstack, s, ?_, hname⟩
  exact List.mem_append_right _ (List.singleton_sublist.mp hs)

lemma sameNames_shadowingTable :
    SameNames (shadowingTable before e after) (before ++ e :: after) := by
  simp [SameNames, shadowingTable, ElfSymbol.inflate, ElfSymbol.deflate, Function.comp_def]

/-- The small object is never looked up. -/
lemma lastSymbol_shadowingTable (hs : s ∈ after) (hname : s.name = e.name) {name : PyStr}
    {x : ElfSymbol} (h : lastSymbol (shadowingTable before e after) name = some x) :
    x.name = name ∧ ∃ y : ElfSymbol, x = y.inflate := by
  have hfound : x.name = name := by simpa using List.find?_some h
  refine ⟨hfound, ?_⟩
  have hmem : x ∈ shadowingTable before e after := by simpa using List.mem_of_find?_eq_some h
  rw [shadowingTable, List.mem_append, List.mem_cons, List.mem_map, List.mem_map] at hmem
  rcases hmem with ⟨y, -, rfl⟩ | rfl | ⟨y, -, rfl⟩
  · exact ⟨y, rfl⟩
  · -- then the later symbol would have been found
    have hlater : ((after.map ElfSymbol.inflate).reverse.find? fun s => s.name == name).isSome := by
      rw [List.find?_isSome]
      refine ⟨s.inflate, by simpa using ⟨s, hs, rfl⟩, beq_iff_eq.mpr ?_⟩
      exact hname.trans hfound
    obtain ⟨z, hz⟩ := Option.isSome_iff_exists.mp hlater
    have hlast : lastSymbol (shadowingTable before e after) name = some z := by
      simp [lastSymbol, shadowingTable, List.find?_append, hz]
    have hzmem := List.mem_of_find?_eq_some hz
    rw [hlast] at h
    cases h
    obtain ⟨y, -, heq⟩ : ∃ y ∈ after, ElfSymbol.inflate y = e.deflate := by simpa using hzmem
    exact ⟨y, heq.symm⟩
  · exact ⟨y, rfl⟩

lemma symbolValue_shadowingTable (name : PyStr) :
    (symbolValue (shadowingTable before e after) name).getD 0 = 0 := by
  rw [symbolValue]
  cases h : lastSymbol (shadowingTable before e after) name with
  | none => rfl
  | some x =>
      have hmem : x ∈ shadowingTable before e after := by simpa using List.mem_of_find?_eq_some h
      rw [shadowingTable, List.mem_append, List.mem_cons, List.mem_map, List.mem_map] at hmem
      rcases hmem with ⟨y, -, rfl⟩ | rfl | ⟨y, -, rfl⟩
      all_goals rfl

lemma tls_shadowingTable :
    (plainBuild (shadowingTable before e after)).tlsSize = 0 ∧
      (plainBuild (shadowingTable before e after)).tlsAlignment = 1 := by
  simp [Build.tlsSize, Build.tlsAlignment, Build.orOne, tlsSymbols, plainBuild,
    symbolValue_shadowingTable]

lemma executionBudget_plainBuild (symbols : List ElfSymbol) (t : StaticStack) :
    (plainBuild symbols).executionBudget t = t.budget := by
  unfold Build.executionBudget
  split
  · rfl
  · rfl

/-- What a known stack needs in the image without a profile. -/
lemma required_plainBuild (symbols : List ElfSymbol) (t : StaticStack) (isr : Bool) :
    requiredBytes ((plainBuild symbols).executionBudget t) 0 1
      (plainBuild symbols).overhead 256 isr =
      t.budget + 271 := by
  have hoverhead : (plainBuild symbols).overhead = 15 := rfl
  rw [executionBudget_plainBuild, hoverhead, requiredBytes]
  cases isr with
  | true =>
      rw [if_pos rfl]
      omega
  | false =>
      rw [if_neg (by decide)]
      omega

lemma budget_bounds : ∀ t ∈ staticStacks, 512 ≤ t.budget ∧ t.budget ≤ 6144 := by decide

/-- Every known stack that the image has passes. -/
lemma staticRow_shadowingTable (hs : s ∈ after) (hname : s.name = e.name) {t : StaticStack}
    (ht : t ∈ staticStacks) :
    ∃ rows, (plainBuild (shadowingTable before e after)).staticRow t = .ok rows ∧
      ∀ row ∈ rows, row.2.1.status = .pass := by
  have htls : (plainBuild (shadowingTable before e after)).tlsSize = 0 := tls_shadowingTable.1
  have halign : (plainBuild (shadowingTable before e after)).tlsAlignment = 1 :=
    tls_shadowingTable.2
  unfold Build.staticRow
  cases hlast : lastSymbol (plainBuild (shadowingTable before e after)).symbols t.symbol with
  | none => exact ⟨[], rfl, by simp⟩
  | some x =>
      obtain ⟨hfound, y, rfl⟩ := lastSymbol_shadowingTable hs hname hlast
      have hsize : y.inflate.size = 2 ^ 20 :=
        if_pos (List.mem_map.mpr ⟨t, ht, hfound.symm⟩)
      obtain ⟨row, hrow⟩ := stackBudget_isOk y.inflate.size t.budget 0 1
        (plainBuild (shadowingTable before e after)).overhead 256
        (t.symbol == "z_interrupt_stacks") le_rfl
      have hpass : row.status = .pass := by
        have hrequired := required_plainBuild (shadowingTable before e after) t
          (t.symbol == "z_interrupt_stacks")
        rw [executionBudget_plainBuild] at hrequired
        rw [stackBudget_status hrow]
        have hbounds := budget_bounds t ht
        change requiredBytes t.budget 0 1 _ 256 _ ≤ _
        rw [hrequired, hsize]
        omega
      refine ⟨[(t.label, row, "ELF:" ++ t.symbol)], ?_, by simpa using hpass⟩
      have hrow' : stackBudget y.inflate.size t.budget (0 : ℕ) (1 : ℕ)
          (plainBuild (shadowingTable before e after)).overhead 256
          (t.symbol == "z_interrupt_stacks") = .ok row := hrow
      simp only [Build.row, htls, halign, executionBudget_plainBuild, hrow', ok_bind]

/-- Nothing in the shadowing table is unreviewed: only the static stacks have a size. -/
lemma unknownStacks_shadowingTable (hs : s ∈ after) (hname : s.name = e.name) :
    (plainBuild (shadowingTable before e after)).unknownStacks = [] := by
  rw [Build.unknownStacks, List.map_eq_nil_iff, List.filter_eq_nil_iff]
  intro x hx hunknown
  obtain ⟨name, -, hlast⟩ := List.mem_filterMap.mp hx
  obtain ⟨-, y, rfl⟩ := lastSymbol_shadowingTable hs hname hlast
  simp only [Bool.and_eq_true, decide_eq_true_eq] at hunknown
  obtain ⟨⟨⟨-, hsize⟩, -⟩, hnot⟩ := hunknown
  have hstatic : y.inflate.name ∈ staticStacks.map StaticStack.symbol := by
    by_contra hno
    rw [show y.inflate.size = 0 from if_neg hno] at hsize
    omega
  obtain ⟨t, ht, heq⟩ := List.mem_map.mp hstatic
  exact hnot (mem_allowedStacks.mpr (.inl ⟨t, ht, heq⟩))

/-- The image is admitted as far as its stacks are concerned. -/
lemma admit_shadowingTable (hs : s ∈ after) (hname : s.name = e.name) :
    ∃ a, (plainBuild (shadowingTable before e after)).admitImage = .ok a ∧ a.StacksPass := by
  have hrow : ∀ t ∈ staticStacks, ∃ rows,
      (plainBuild (shadowingTable before e after)).staticRow t = .ok rows ∧
        ∀ row ∈ rows, row.2.1.status = .pass :=
    fun t ht => staticRow_shadowingTable hs hname ht
  obtain ⟨rows, hrows, hpass⟩ := exists_mapM_ok hrow
  have hstatic : (plainBuild (shadowingTable before e after)).staticRows = .ok rows.flatten := by
    rw [Build.staticRows, hrows]
    rfl
  have hinventory : ∃ r, inventory (plainBuild (shadowingTable before e after)).unicode
      (plainBuild (shadowingTable before e after)).artifacts
      (plainBuild (shadowingTable before e after)).symbols = .ok r :=
    ⟨_, rfl⟩
  obtain ⟨r, hr⟩ := hinventory
  have hadmit : (plainBuild (shadowingTable before e after)).admitImage = .ok ⟨rows.flatten,
      .vendorStack ::
        (plainBuild (shadowingTable before e after)).finalFailures r rows.flatten 0⟩ := by
    have hvendor : (plainBuild (shadowingTable before e after)).vendorRows =
        .ok ([], [.vendorStack]) := rfl
    have hcyclone : (plainBuild (shadowingTable before e after)).cycloneRows = .ok ([], []) := rfl
    have hnanoRos : (plainBuild (shadowingTable before e after)).nanoRosRows = .ok ([], []) := rfl
    have hpool : (plainBuild (shadowingTable before e after)).dynamicPoolSize = .ok 0 := rfl
    simp only [Build.admitImage, hr, hstatic, hvendor, hcyclone, hnanoRos, hpool, ok_bind,
      List.append_nil, List.singleton_append]
  refine ⟨_, hadmit, ?_⟩
  rw [Admission.StacksPass, List.forall_mem_cons, finalFailures_pass_iff]
  refine ⟨rfl, unknownStacks_shadowingTable hs hname, fun row hmem => ?_⟩
  obtain ⟨part, hpart, hin⟩ := List.mem_flatten.mp hmem
  exact hpass part hpart row hin

/-- The small stack object is not covered. -/
lemma not_covered_deflate : ¬ Covered (plainBuild (shadowingTable before e after)) e.deflate := by
  rintro (⟨hprofile, -⟩ | ⟨hprofile, -⟩ | ⟨t, ht, -, hrequired⟩)
  · cases hprofile
  · cases hprofile
  · have hbounds := budget_bounds t ht
    have htls : (plainBuild (shadowingTable before e after)).tlsSize = 0 := tls_shadowingTable.1
    have halign : (plainBuild (shadowingTable before e after)).tlsAlignment = 1 :=
      tls_shadowingTable.2
    rw [htls, halign] at hrequired
    have heq := required_plainBuild (shadowingTable before e after) t
      (t.symbol == "z_interrupt_stacks")
    change requiredBytes _ 0 1 _ _ _ ≤ ((256 : ℕ) : ℤ) at hrequired
    rw [heq] at hrequired
    omega

/-- **Which tables of symbols an admission covers.**  Whatever the sizes of the symbols and the rest
of the build are, an admission without a failure about stacks covers every large stack object,
exactly if no stack object of the table is followed by another symbol of its name. -/
theorem admission_covers_iff (table : List ElfSymbol) :
    (∀ b : Build, SameNames b.symbols table → CoversStacks b) ↔ Unshadowed table := by
  constructor
  · intro hcovers
    by_contra hshadowed
    obtain ⟨before, e, after, rfl, hstack, s, hs, hname⟩ := exists_shadowed hshadowed
    have hadmitted : ∃ a, (plainBuild (shadowingTable before e after)).admitImage = .ok a ∧
        a.StacksPass := admit_shadowingTable hs hname
    obtain ⟨a, hadmit, hpass⟩ := hadmitted
    have hmem : e.deflate ∈ (plainBuild (shadowingTable before e after)).symbols := by
      simp [plainBuild, shadowingTable]
    have hcovered := hcovers _ sameNames_shadowingTable a hadmit hpass e.deflate hmem hstack le_rfl
    exact not_covered_deflate hcovered
  · intro h b hsame
    exact coversStacks_of_unshadowed ((unshadowed_iff_of_sameNames hsame).mpr h)

/-- Two receive stacks of different drivers, the first one too small. -/
def twoRxStacks : List ElfSymbol :=
  [⟨"rx_stack", 0x40810000, 1024, .object⟩, ⟨"rx_stack", 0x40820000, 4096, .object⟩]

/-- The admission sees the second stack only and passes. -/
theorem admission_misses_shadowed_stack :
    (∃ a, (plainBuild twoRxStacks).admitImage = .ok a ∧ a.StacksPass) ∧
      ¬ CoversStacks (plainBuild twoRxStacks) := by
  have hadmitted : ∃ a, (plainBuild twoRxStacks).admitImage = .ok a ∧ a.StacksPass :=
    ⟨_, rfl, by decide⟩
  refine ⟨hadmitted, fun hcovers => ?_⟩
  obtain ⟨a, hadmit, hpass⟩ := hadmitted
  have hcovered := hcovers a hadmit hpass ⟨"rx_stack", 0x40810000, 1024, .object⟩
    List.mem_cons_self (by decide) (by decide)
  rcases hcovered with ⟨hprofile, -⟩ | ⟨hprofile, -⟩ | ⟨t, ht, hname, hrequired⟩
  · cases hprofile
  · cases hprofile
  · have hbudget : ∀ t ∈ staticStacks, t.symbol = "rx_stack" → t.budget = 1408 := by
      decide
    have heq := required_plainBuild twoRxStacks t
      (t.symbol == "z_interrupt_stacks")
    rw [hbudget t ht hname] at heq
    change requiredBytes _ 0 1 _ _ _ ≤ ((1024 : ℕ) : ℤ) at hrequired
    rw [heq] at hrequired
    omega

end Shadowed

end Ros2Zephyr
