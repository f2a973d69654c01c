namespace InstanceCatalog
namespace World

variable {ω α β : Type}

@[simp]
theorem bind_apply (x : StateM ω α) (f : α → StateM ω β) (world : ω) :
    (x >>= f) world = f (x world).1 (x world).2 := rfl

@[simp]
theorem pure_apply (a : α) (world : ω) : (pure a : StateM ω α) world = (a, world) := rfl

/-- Steps that leave the world as it is give their answers one after the other. -/
theorem mapM_apply {step : α → StateM ω β} {answer : α → β} {world : ω} {items : List α}
    (h : ∀ a ∈ items, step a world = (answer a, world)) :
    items.mapM step world = (items.map answer, world) := by
  induction items with
  | nil => rfl
  | cons a rest ih =>
    have hr := ih fun b hb => h b (List.mem_cons_of_mem _ hb)
    simp only [List.mapM_cons, bind_apply, h a List.mem_cons_self, hr, pure_apply, List.map_cons]

/-- Steps that leave the world as it is, and each add to a record of what was done. -/
theorem mapM_recorded {ρ : Type} {step : α → StateM (ω × List ρ) β} {answer : α → β}
    {added : α → List ρ} {world : ω}
    (h : ∀ a seen, step a (world, seen) = (answer a, world, seen ++ added a)) (items : List α)
    (seen : List ρ) :
    items.mapM step (world, seen) = (items.map answer, world, seen ++ items.flatMap added) := by
  induction items generalizing seen with
  | nil =>
    rw [List.flatMap_nil, List.append_nil]
    rfl
  | cons a rest ih =>
    simp only [List.mapM_cons, bind_apply, h, ih, pure_apply, List.map_cons, List.flatMap_cons,
      List.append_assoc]

end World
end InstanceCatalog
