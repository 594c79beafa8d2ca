import RuntimeTypes.Proofs.Hierarchy.Ancestors
import RuntimeTypes.Proofs.TypeSystem.Operations

/-!
The chain of a class descriptor is the lineage of the class, whoever registered
the names of the lineage first.
-/

namespace RuntimeTypes

namespace TypeSystem

variable {s t : TypeSystem}

/-- What the registry holds for a class definition that it answered with a descriptor. -/
theorem Sound.lookup_of_hasSettled (sound : s.Sound) {c : ExceptionClass}
    {base? : Option Descriptor} {d : Descriptor}
    (based : ∀ base, base? = some base → s.Holds base)
    (settled : s.HasSettled (classDefinition c base?) (.ok d)) :
    s.globalRegistry.lookup c.typeName = some d ∧ d.fields = [] ∧ d.base? = base? := by
  obtain ⟨r, used, settled⟩ := settled
  obtain ⟨_, found, sameBase, fields⟩ := Registry.judge_eq_known_iff.1 settled.judge_eq_known
  have held := (sound.filed .global used found).1
  refine ⟨by rwa [globalRegistry, used], fields, ?_⟩
  change Descriptor.sameBase d.base? base? = true at sameBase
  cases above : d.base? with
  | none =>
      cases base? with
      | none => rfl
      | some base => simp [above, Descriptor.sameBase] at sameBase
  | some b =>
      cases base? with
      | none => simp [above, Descriptor.sameBase] at sameBase
      | some base =>
          rw [above] at sameBase
          have held' := (sound.numbered.base held above).1
          rw [sound.numbered.eq_of_same held' (based base rfl) sameBase]

/-- The base of a class descriptor is the descriptor of the base, if there is one. -/
theorem Sound.entry_of_known (sound : s.Sound) {c : ExceptionClass} {d : Descriptor}
    (known : s.known? c = some (.ok d)) :
    s.globalRegistry.lookup c.typeName = some d ∧ d.fields = [] ∧
      d.base?.map (fun b => some (.ok b)) = c.base?.map s.known? := by
  cases c with
  | root =>
      have based : ∀ base, none = some base → s.Holds base := by
        intro base none
        cases none
      obtain ⟨found, fields, base⟩ := sound.lookup_of_hasSettled based (sound.justified known)
      exact ⟨found, fields, by rw [base]; rfl⟩
  | derived ident typeName base =>
      rcases sound.justified known with ⟨e, _, same⟩ | ⟨b, above, settled⟩
      · cases same
      · have based : ∀ base, some b = some base → s.Holds base := by
          intro base same
          cases same
          exact sound.holds_of_known above
        obtain ⟨found, fields, base⟩ := sound.lookup_of_hasSettled based settled
        refine ⟨found, fields, ?_⟩
        rw [base, Option.map_some, ExceptionClass.base?, Option.map_some, above]

/-- Up the lineage, every class is known with the descriptor that stands at its
place in the chain, and the last one is a root. -/
theorem Sound.chain_of_known (sound : s.Sound) {c : ExceptionClass} {d : Descriptor}
    (known : s.known? c = some (.ok d)) :
    d.chain.map (fun e => some (.ok e)) = c.lineage.map s.known? ∧
      ∃ root, s.known? .root = some (.ok root) ∧ root.isRoot := by
  induction c generalizing d with
  | root =>
      have base : d.base? = none := by
        simpa [ExceptionClass.base?] using (sound.entry_of_known known).2.2
      refine ⟨?_, d, known, by rw [Descriptor.isRoot, base]; rfl⟩
      rw [Descriptor.chain_of_root base, ExceptionClass.lineage, List.map_singleton,
        List.map_singleton, known]
  | derived ident typeName base ih =>
      obtain ⟨b, same, above⟩ : ∃ b, d.base? = some b ∧ some (.ok b) = s.known? base := by
        simpa [ExceptionClass.base?] using (sound.entry_of_known known).2.2
      obtain ⟨chain, root⟩ := ih above.symm
      refine ⟨?_, root⟩
      rw [Descriptor.chain_of_base same, ExceptionClass.lineage, List.map_cons, List.map_cons,
        chain, known]

theorem Sound.known_of_mem_lineage (sound : s.Sound) {c k : ExceptionClass} {d : Descriptor}
    (known : s.known? c = some (.ok d)) (above : k ∈ c.lineage) :
    ∃ e ∈ d.chain, s.known? k = some (.ok e) := by
  have among : s.known? k ∈ c.lineage.map s.known? := List.mem_map_of_mem above
  rw [← (sound.chain_of_known known).1] at among
  obtain ⟨e, inside, same⟩ := List.mem_map.1 among
  exact ⟨e, inside, same.symm⟩

theorem Sound.mem_chain_iff_of_known (sound : s.Sound) {c : ExceptionClass} {d e : Descriptor}
    (known : s.known? c = some (.ok d)) :
    e ∈ d.chain ↔ ∃ k ∈ c.lineage, s.known? k = some (.ok e) := by
  rw [← List.mem_map, ← (sound.chain_of_known known).1]
  simp

/-- A class descriptor is the one that the global registry has under the name of
the class; it adds no fields, and its chain consists of the descriptors of the
lineage, each of which is given again without any change. -/
theorem chain_descriptorOf (reachable : s.Reachable) {c : ExceptionClass} {d : Descriptor}
    (request : s.descriptorOf c = (.ok d, t)) :
    t.globalRegistry.lookup c.typeName = some d ∧ d.fields = [] ∧
      d.chain.map (fun e => (.ok e, t)) = c.lineage.map t.descriptorOf ∧
        ∃ root, t.descriptorOf .root = (.ok root, t) ∧ root.isRoot := by
  have sound : t.Sound := by
    have steps := steps_descriptorOf reachable.sound c
    rw [request] at steps
    exact steps.sound reachable.sound
  have known := known?_of_request request
  obtain ⟨found, fields, _⟩ := sound.entry_of_known known
  obtain ⟨chain, root, knownRoot, isRoot⟩ := sound.chain_of_known known
  refine ⟨found, fields, ?_, root, descriptorOf_of_known knownRoot, isRoot⟩
  have asked : ∀ k ∈ c.lineage, t.descriptorOf k = ((t.known? k).getD (.ok d), t) := by
    intro k above
    have mem : t.known? k ∈ c.lineage.map t.known? := List.mem_map_of_mem above
    rw [← chain] at mem
    obtain ⟨e, _, answer⟩ := List.mem_map.1 mem
    rw [descriptorOf_of_known answer.symm, ← answer, Option.getD_some]
  calc d.chain.map (fun e => ((.ok e : Except Error Descriptor), t))
      = (d.chain.map fun e => some (.ok e)).map fun known? => (known?.getD (.ok d), t) := by
        rw [List.map_map]
        rfl
    _ = c.lineage.map fun k => ((t.known? k).getD (.ok d), t) := by
        rw [chain, List.map_map]
        rfl
    _ = c.lineage.map t.descriptorOf := (List.map_congr_left asked).symm

/-- A program that defines a built-in name itself, and then asks for a class
under the name of another. -/
def namesTakenFirst : List Operation :=
  [.define .global { name := "System.Exception" },
    .describe (.derived "OtherException" "System.SystemException" .root)]

/-- The built-in classes share the descriptors that such a program made. -/
theorem chain_descriptorOf_after_namesTakenFirst :
    ∃ s d t, Reachable s ∧ s = ((start {}).performAll namesTakenFirst).2 ∧
      s.descriptorOf .timeout = (.ok d, t) ∧
      t.globalRegistry.lookup "System.TimeoutException" = some d ∧ d.fields = [] ∧
      d.chain.map (fun e => (.ok e, t)) =
        [.timeout, .system, .root].map t.descriptorOf ∧
      ∃ root, t.descriptorOf .root = (.ok root, t) ∧ root.isRoot := by
  have admitted : (start {}).AdmitsAll namesTakenFirst := by
    refine ⟨?_, trivial, trivial⟩
    intro base none
    cases none
  have reachable : Reachable ((start {}).performAll namesTakenFirst).2 :=
    ⟨{}, leads_performAll admitted⟩
  have answered : ((((start {}).performAll namesTakenFirst).2.descriptorOf .timeout).1).toBool =
      true := by
    decide +kernel
  match request : ((start {}).performAll namesTakenFirst).2.descriptorOf .timeout with
  | (.ok d, t) => exact ⟨_, d, t, reachable, rfl, request, chain_descriptorOf reachable request⟩
  | (.error e, t) =>
      rw [request] at answered
      cases answered

end TypeSystem

end RuntimeTypes
