import SmsActivate.Lib.Partial
import SmsActivate.Collection

set_option autoImplicit false

namespace SmsActivate

open SmsActivate.Lib

theorem short_pairwise {Item : Type} (above : Item → Item → Prop) (items : List Item) (short : items.length < 2) :
    items.Pairwise above := by
  cases items with
  | nil => exact .nil
  | cons item rest =>
      rw [List.length_cons] at short
      have single : rest = [] := List.length_eq_zero_iff.mp (by omega)
      rw [single]
      exact List.pairwise_singleton above item

section Sorting

variable {Item Key : Type} [LE Key] [DecidableLE Key] (key : Item → Option Key) (items sorted : List Item)
  (done : World.sortDescending key items = some sorted)

theorem sort_descending_short (short : items.length < 2) : World.sortDescending key items = some items := by
  rw [World.sortDescending, if_pos short]

theorem sort_descending_exists (defined : ∀ item ∈ items, (key item).isSome) :
    ∃ sorted, World.sortDescending key items = some sorted := by
  by_cases short : items.length < 2
  · exact ⟨items, sort_descending_short key items short⟩
  · obtain ⟨keyed, mapped⟩ := mapped_all (fun item => (key item).map (fun k => (k, item))) items (by simpa using defined)
    rw [World.sortDescending, if_neg short, mapped]
    exact ⟨_, rfl⟩

include done

theorem sort_descending_keyed (long : ¬ items.length < 2) :
    ∃ keyed : List (Key × Item), keyed.map Prod.snd = items ∧ (∀ pair ∈ keyed, key pair.2 = some pair.1) ∧
      sorted = (keyed.mergeSort (fun a b => decide (b.1 ≤ a.1))).map Prod.snd := by
  rw [World.sortDescending, if_neg long] at done
  obtain ⟨keyed, mapped, shape⟩ := Option.map_eq_some_iff.mp done
  have pairs : ∀ item pair, (key item).map (fun k => (k, item)) = some pair → key item = some pair.1 ∧ pair.2 = item := by
    intro item pair made
    obtain ⟨k, found, rfl⟩ := Option.map_eq_some_iff.mp made
    exact ⟨found, rfl⟩
  refine ⟨keyed, mapped_back _ Prod.snd (fun item pair made => (pairs item pair made).2) items keyed mapped, ?_, shape.symm⟩
  intro pair member
  obtain ⟨item, _, made⟩ := mapped_member _ items keyed pair mapped member
  rw [(pairs item pair made).2]
  exact (pairs item pair made).1

theorem sort_descending_perm : sorted.Perm items := by
  by_cases short : items.length < 2
  · rw [sort_descending_short key items short] at done
    rw [Option.some.inj done]
  · obtain ⟨keyed, whole, _, rfl⟩ := sort_descending_keyed key items sorted done short
    rw [← whole]
    exact (List.mergeSort_perm keyed _).map Prod.snd

theorem sort_descending_defined (long : ¬ items.length < 2) : ∀ item ∈ items, (key item).isSome := by
  obtain ⟨keyed, rfl, pairs, _⟩ := sort_descending_keyed key items sorted done long
  intro item member
  obtain ⟨pair, inside, rfl⟩ := List.mem_map.mp member
  rw [pairs pair inside]
  rfl

theorem sort_descending_sorted (long : ¬ items.length < 2) (chain : ∀ x y z : Key, x ≤ y → y ≤ z → x ≤ z)
    (compare : ∀ x y : Key, x ≤ y ∨ y ≤ x) :
    sorted.Pairwise (fun a b => ∃ x y, key a = some x ∧ key b = some y ∧ y ≤ x) := by
  obtain ⟨keyed, _, pairs, rfl⟩ := sort_descending_keyed key items sorted done long
  have transitive : ∀ a b c : Key × Item, decide (b.1 ≤ a.1) = true → decide (c.1 ≤ b.1) = true → decide (c.1 ≤ a.1) = true := by
    intro a b c first second
    exact decide_eq_true (chain c.1 b.1 a.1 (of_decide_eq_true second) (of_decide_eq_true first))
  have either : ∀ a b : Key × Item, (decide (b.1 ≤ a.1) || decide (a.1 ≤ b.1)) = true := by
    intro a b
    simpa using compare b.1 a.1
  have ordered : (keyed.mergeSort (fun a b => decide (b.1 ≤ a.1))).Pairwise (fun a b => decide (b.1 ≤ a.1) = true) :=
    List.pairwise_mergeSort transitive either keyed
  rw [List.pairwise_map]
  apply List.Pairwise.imp_of_mem _ ordered
  intro a b first second above
  have inside : ∀ pair ∈ keyed.mergeSort (fun a b => decide (b.1 ≤ a.1)), key pair.2 = some pair.1 :=
    fun pair member => pairs pair ((List.mergeSort_perm keyed _).mem_iff.mp member)
  exact ⟨a.1, b.1, inside a first, inside b second, of_decide_eq_true above⟩

end Sorting

def numericID (model : ActivationModel) : Option Int := model.order_id.bind intFromDescription

def Above (first second : ActivationModel) : Prop :=
  ∃ x y, numericID first = some x ∧ numericID second = some y ∧ y < x

-- fetchNumberPurchases gets the documents, in the given order, and keeps all
-- of them, strictly by descending id.
def LoadsBack (w : World) (read : Read) (data : List Document) : Prop :=
  ∃ served next, step w (.serve read (.documents data)) = some served ∧
    step served (.deliver read (.documents data)) = some next ∧
    next.auth.userNumbers.Perm (data.map ActivationModel.fromData) ∧ next.auth.userNumbers.Pairwise Above

-- Every id is a 64-bit decimal, and no two have the same value.
structure Numeric (ids : List String) : Prop where
  parsed : ∀ id ∈ ids, (intFromDescription id).isSome
  distinct : (ids.map intFromDescription).Nodup

theorem above_distinct (models : List ActivationModel) (ordered : models.Pairwise Above) : (models.map numericID).Nodup := by
  rw [List.Nodup, List.pairwise_map]
  apply ordered.imp
  rintro first second ⟨x, y, firstID, secondID, below⟩ same
  rw [firstID, secondID] at same
  have equal := Option.some.inj same
  omega

theorem sort_numbers_eq (models : List ActivationModel) :
    World.sortNumbers models = World.sortDescending numericID models := rfl

theorem numeric_sorted (models sorted : List ActivationModel) (done : World.sortDescending numericID models = some sorted)
    (long : ¬ models.length < 2) (distinct : (models.map numericID).Nodup) : sorted.Pairwise Above := by
  have ordered := sort_descending_sorted numericID models sorted done long (fun _ _ _ => Int.le_trans) Int.le_total
  have apart : (sorted.map numericID).Nodup := ((sort_descending_perm numericID models sorted done).map numericID).nodup_iff.mpr distinct
  rw [List.Nodup, List.pairwise_map] at apart
  apply ordered.imp₂ _ apart
  rintro first second ⟨x, y, firstID, secondID, below⟩ different
  refine ⟨x, y, firstID, secondID, ?_⟩
  have other : y ≠ x := by
    rintro rfl
    exact different (firstID.trans secondID.symm)
  omega

-- What the sort makes of a list of models, in terms of their ids.
theorem sort_numbers_iff (models : List ActivationModel) (ids : List String)
    (same : (models.map ActivationModel.order_id).Perm (ids.map some)) :
    (∃ sorted, World.sortNumbers models = some sorted ∧ sorted.Perm models ∧ sorted.Pairwise Above) ↔
      ids.length < 2 ∨ Numeric ids := by
  have lengths : models.length = ids.length := by simpa using same.length_eq
  have numbers : (models.map numericID).Perm (ids.map intFromDescription) := by
    have bound := same.map (fun id => id.bind intFromDescription)
    rw [List.map_map, List.map_map] at bound
    exact bound
  rw [sort_numbers_eq]
  constructor
  · rintro ⟨sorted, done, perm, ordered⟩
    by_cases short : models.length < 2
    · exact .inl (lengths ▸ short)
    · right
      constructor
      · intro id member
        have image : intFromDescription id ∈ models.map numericID := numbers.mem_iff.mpr (List.mem_map_of_mem member)
        obtain ⟨model, inside, value⟩ := List.mem_map.mp image
        rw [← value]
        exact sort_descending_defined numericID models sorted done short model inside
      · exact numbers.nodup_iff.mp ((perm.map numericID).nodup_iff.mp (above_distinct sorted ordered))
  · intro condition
    by_cases short : models.length < 2
    · refine ⟨models, sort_descending_short numericID models short, List.Perm.refl models, ?_⟩
      exact short_pairwise Above models short
    · have numeric : Numeric ids := condition.resolve_left (lengths ▸ short)
      have defined : ∀ model ∈ models, (numericID model).isSome := by
        intro model member
        have image : numericID model ∈ ids.map intFromDescription := numbers.mem_iff.mp (List.mem_map_of_mem member)
        obtain ⟨id, inside, value⟩ := List.mem_map.mp image
        rw [← value]
        exact numeric.parsed id inside
      obtain ⟨sorted, done⟩ := sort_descending_exists numericID models defined
      exact ⟨sorted, done, sort_descending_perm numericID models sorted done,
        numeric_sorted models sorted done short (numbers.nodup_iff.mpr numeric.distinct)⟩

theorem shelf_documents (collection : Path) (ids : List String) (store : Store) (data : List Document)
    (shelf : Shelf collection ids store) (perm : data.Perm (documentsIn collection store)) :
    ((data.map ActivationModel.fromData).map ActivationModel.order_id).Perm (ids.map some) := by
  have stored := shelf.map Prod.snd
  rw [shelved, List.map_map, List.map_map] at stored
  have fields := perm.map (fun data => (ActivationModel.fromData data).order_id)
  rw [documentsIn, List.map_map] at fields
  rw [List.map_map]
  exact fields.trans stored

theorem serve_collection (w : World) (read : Read) (data : List Document) (waiting : read ∈ w.reads)
    (kind : read.kind = .collection) (perm : data.Perm (documentsIn read.path w.view)) :
    step w (.serve read (.documents data)) =
      some { w with reads := w.reads.erase read, results := w.results ++ [(read, .documents data)] } := by
  have answers : serves w.view read (.documents data) = true :=
    Bool.and_eq_true_iff.mpr ⟨decide_eq_true kind, List.isPerm_iff.mpr perm⟩
  rw [step, if_pos ⟨waiting, answers⟩]

theorem deliver_collection (w : World) (read : Read) (data : List Document) (member : (read, .documents data) ∈ w.results)
    (kind : read.kind = .collection) :
    step w (.deliver read (.documents data)) =
      { w with results := w.results.erase (read, .documents data) }.fetchNumberPurchasesResult (.documents data) := by
  rw [step, if_pos member, kind]
  rfl

-- The result of a read that is served and delivered at once.
theorem loads_back_iff (w : World) (read : Read) (data : List Document) (waiting : read ∈ w.reads)
    (kind : read.kind = .collection) (perm : data.Perm (documentsIn read.path w.view))
    (blank : data = [] → w.auth.userNumbers = []) :
    LoadsBack w read data ↔ ∃ sorted, World.sortNumbers (data.map ActivationModel.fromData) = some sorted ∧
      sorted.Perm (data.map ActivationModel.fromData) ∧ sorted.Pairwise Above := by
  have served := serve_collection w read data waiting kind perm
  let middle : World := { w with reads := w.reads.erase read, results := w.results ++ [(read, .documents data)] }
  have delivered := deliver_collection middle read data (List.mem_append_right w.results List.mem_cons_self) kind
  constructor
  · rintro ⟨other, next, first, second, all, ordered⟩
    rw [served] at first
    rw [← Option.some.inj first] at second
    rw [show step _ _ = _ from delivered] at second
    cases data with
    | nil => exact ⟨[], rfl, List.Perm.refl _, .nil⟩
    | cons document rest =>
        obtain ⟨sorted, done, rfl⟩ := Option.map_eq_some_iff.mp second
        exact ⟨sorted, done, all, ordered⟩
  · rintro ⟨sorted, done, all, ordered⟩
    cases data with
    | nil =>
        refine ⟨middle, _, served, delivered, ?_, ?_⟩
        · change w.auth.userNumbers.Perm _
          rw [blank rfl]
          exact .nil
        · change w.auth.userNumbers.Pairwise _
          rw [blank rfl]
          exact .nil
    | cons document rest =>
        refine ⟨middle, _, served, delivered.trans (Option.map_eq_some_iff.mpr ⟨sorted, done, rfl⟩), all, ordered⟩

theorem orders_load_back_iff (user : Path) (start w : World) (history : List (World × Label)) (read : Read)
    (data : List Document) (opened : Opened user start) (run : WorldRun start history w)
    (accepted : ∀ entry ∈ history, entry.2 ≠ .applyWrite false) (admissible : Admissible (purchasedIDs history))
    (applied : w.writes = []) (waiting : read ∈ w.reads) (kind : read.kind = .collection)
    (perm : data.Perm (documentsIn (user ++ ["purchases"]) w.store)) :
    LoadsBack w read data ↔ (purchasedIDs history).length < 2 ∨ Numeric (purchasedIDs history) := by
  have housed := run_housed user start w history opened run accepted
  have path : read.path = user ++ ["purchases"] := by
    have fetches := housed.reads read waiting
    rw [Read.Fetches, kind] at fetches
    exact fetches
  have shelf := housed.shelf admissible
  rw [World.settled, applied, settle_nil] at shelf
  have ids := shelf_documents _ _ _ data shelf perm
  have blank : data = [] → w.auth.userNumbers = [] := by
    rintro rfl
    have none := ids.nil_eq
    exact (housed.blank (List.map_eq_nil_iff.mp none.symm)).numbers
  have seen : w.view = w.store := by rw [World.view, applied]; rfl
  rw [loads_back_iff w read data waiting kind (by rw [path, seen]; exact perm) blank]
  exact sort_numbers_iff _ _ ids

theorem demo_opened : Opened demoUser demoSession := by
  have reads : demoSession.reads = [] := by decide +kernel
  refine ⟨⟨by decide +kernel, by decide +kernel, by decide +kernel, by decide +kernel, by decide +kernel, by decide +kernel⟩,
    by decide +kernel, by decide +kernel, ?_, by decide +kernel, by decide +kernel, by decide +kernel⟩
  rw [reads]
  intro read member
  cases member

-- Two orders are bought and stored, and the collection is about to be read.
def twoOrders (first second : String) : List Label :=
  demoBuy 2 first ++ demoBuy 5 second ++ [.applyWrite true, .applyWrite true, .applyWrite true, .applyWrite true,
    .acknowledge ⟨4, demoUser ++ ["purchases", first], .setData, (demoOrder first).createDic, .fetchNumberPurchases⟩ true]

def numbersRead : Read := ⟨8, .collection, demoUser ++ ["purchases"]⟩

def twoRecords (first second : String) : List Document := [(demoOrder first).createDic, (demoOrder second).createDic]

theorem nonnumeric_order_traps :
    ∃ w served, WorldRun demoSession (trace step demoSession (twoOrders "abc" "100")) w ∧ Opened demoUser demoSession ∧
      w.writes = [] ∧ numbersRead ∈ w.reads ∧ (twoRecords "abc" "100").Perm (documentsIn (demoUser ++ ["purchases"]) w.store) ∧
      Admissible (purchasedIDs (trace step demoSession (twoOrders "abc" "100"))) ∧
      step w (.serve numbersRead (.documents (twoRecords "abc" "100"))) = some served ∧
      step served (.deliver numbersRead (.documents (twoRecords "abc" "100"))) = none ∧
      ¬ LoadsBack w numbersRead (twoRecords "abc" "100") := by
  obtain ⟨w, run, applied, waiting, perm, found⟩ := exec_reaches step demoSession (twoOrders "abc" "100")
    (fun w => w.writes = [] ∧ numbersRead ∈ w.reads ∧
      (twoRecords "abc" "100").isPerm (documentsIn (demoUser ++ ["purchases"]) w.store) = true ∧
      (step w (.serve numbersRead (.documents (twoRecords "abc" "100")))).any (fun served =>
        (step served (.deliver numbersRead (.documents (twoRecords "abc" "100")))).isNone) = true) (by decide +kernel)
  obtain ⟨served, first, trapped⟩ := (Option.any_eq_true _ _).mp found
  have ids : purchasedIDs (trace step demoSession (twoOrders "abc" "100")) = ["abc", "100"] := by decide +kernel
  refine ⟨w, served, run, demo_opened, applied, waiting, List.isPerm_iff.mp perm, ?_, first, Option.isNone_iff_eq_none.mp trapped, ?_⟩
  · rw [ids]
    exact ⟨by decide, by decide⟩
  · rintro ⟨other, next, again, delivered, _⟩
    rw [Option.some.inj (again.symm.trans first), Option.isNone_iff_eq_none.mp trapped] at delivered
    cases delivered

theorem numeric_orders_load :
    ∃ w, WorldRun demoSession (trace step demoSession (twoOrders "99" "100")) w ∧
      LoadsBack w numbersRead (twoRecords "99" "100") := by
  obtain ⟨w, run, applied, waiting, perm⟩ := exec_reaches step demoSession (twoOrders "99" "100")
    (fun w => w.writes = [] ∧ numbersRead ∈ w.reads ∧
      (twoRecords "99" "100").isPerm (documentsIn (demoUser ++ ["purchases"]) w.store) = true) (by decide +kernel)
  have ids : purchasedIDs (trace step demoSession (twoOrders "99" "100")) = ["99", "100"] := by decide +kernel
  have accepted : ∀ entry ∈ trace step demoSession (twoOrders "99" "100"), entry.2 ≠ .applyWrite false := by decide +kernel
  have admissible : Admissible (purchasedIDs (trace step demoSession (twoOrders "99" "100"))) := by
    rw [ids]
    exact ⟨by decide, by decide⟩
  refine ⟨w, run, (orders_load_back_iff demoUser demoSession w _ numbersRead _ demo_opened run accepted admissible applied
    waiting rfl (List.isPerm_iff.mp perm)).mpr (.inr ?_)⟩
  rw [ids]
  exact ⟨by decide, by decide⟩

end SmsActivate
