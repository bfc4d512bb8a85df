import KnowledgeClient.Proofs.Reading

/-!
# Members in order

The order of texts is the order of their bytes.  Putting members one after the other
at their places leaves strictly increasing keys at every depth, whatever the order in
which members with different keys come; values whose members are in order already
stay as they are.
-/

namespace KnowledgeClient

/-! ## The order of texts -/

namespace Text

open String

/-- The bytes of a greater character come after those of a smaller one, whatever follows. -/
theorem utf8EncodeChar_append_lt
    {c d : Char}
    (less : c < d)
    (further others : Bytes) :
    utf8EncodeChar c ++ further < utf8EncodeChar d ++ others := by
  have below : c.val.toNat < d.val.toNat := less
  have bound : d.val.toNat < 0x110000 := by
    rcases d.valid with low | high
    · exact Nat.lt_trans low (by decide)
    · exact high.2
  -- Both codes are compared digit by digit to the base 64, which is how they are encoded.
  have twoDigits : ∀ n : Nat, n / 4096 = n / 64 / 64 := fun n => by omega
  have threeDigits : ∀ n : Nat, n / 262144 = n / 64 / 64 / 64 := fun n => by omega
  unfold utf8EncodeChar
  generalize c.val.toNat = smaller at *
  generalize d.val.toNat = greater at *
  simp only [twoDigits, threeDigits]
  repeat' split
  all_goals
    simp only [List.cons_append, List.nil_append, List.cons_lt_cons_iff,
      UInt8.lt_iff_toNat_lt, UInt8.toNat_ofNat', ← UInt8.toNat_inj]
    omega

theorem flatMap_utf8EncodeChar_lt
    {one other : List Char}
    (less : one < other) :
    one.flatMap utf8EncodeChar < other.flatMap utf8EncodeChar := by
  induction one generalizing other with
  | nil =>
      cases other with
      | nil => exact absurd less (List.lt_irrefl _)
      | cons d others =>
          have size : 0 < (utf8EncodeChar d).length := by
            rw [length_utf8EncodeChar]
            exact Char.utf8Size_pos d
          obtain ⟨first, rest, bytes⟩ := List.exists_cons_of_length_pos size
          rw [List.flatMap_nil, List.flatMap_cons, bytes, List.cons_append]
          exact List.nil_lt_cons _ _
  | cons c further inductionHypothesis =>
      cases other with
      | nil => cases less
      | cons d others =>
          rw [List.flatMap_cons, List.flatMap_cons]
          rcases List.cons_lt_cons_iff.mp less with first | ⟨rfl, rest⟩
          · exact utf8EncodeChar_append_lt first _ _
          · exact List.append_left_lt (inductionHypothesis rest)

/-- Of two different texts one comes before the other. -/
theorem lt_or_eq_or_gt (one other : String) : one < other ∨ one = other ∨ other < one := by
  by_cases less : one < other
  · exact .inl less
  by_cases greater : other < one
  · exact .inr (.inr greater)
  · exact .inr (.inl (String.le_antisymm greater less))

/-- Texts come in the order of their bytes. -/
theorem encode_lt_encode_iff (one other : String) :
    encode one < encode other ↔ one < other := by
  have mono : ∀ {one other : String}, one < other → encode one < encode other :=
    fun less => flatMap_utf8EncodeChar_lt less
  refine ⟨fun bytesLess => ?_, mono⟩
  rcases lt_or_eq_or_gt one other with less | rfl | greater
  · exact less
  · exact absurd bytesLess (List.lt_irrefl _)
  · exact absurd (mono greater) (List.lt_asymm bytesLess)

end Text

namespace Json

/-! ## Putting a member at its place -/

section Places

variable {key : String} {first : String × Value}

theorem insertMember_of_lt
    (less : key < first.1)
    (value : Value)
    (rest : List (String × Value)) :
    insertMember key value (first :: rest) = (key, value) :: first :: rest := by
  simp [insertMember, less]

theorem insertMember_of_eq
    (same : key = first.1)
    (value : Value)
    (rest : List (String × Value)) :
    insertMember key value (first :: rest) = (key, value) :: rest := by
  simp [insertMember, same]

theorem insertMember_of_gt
    (greater : first.1 < key)
    (value : Value)
    (rest : List (String × Value)) :
    insertMember key value (first :: rest) = first :: insertMember key value rest := by
  have notLess : ¬ key < first.1 := String.lt_asymm greater
  have different : key ≠ first.1 := fun same => String.lt_irrefl _ (same ▸ greater)
  simp [insertMember, notLess, different]

end Places

theorem mem_insertMember
    {key : String}
    {value : Value}
    {members : List (String × Value)}
    {member : String × Value}
    (isMember : member ∈ insertMember key value members) :
    member = (key, value) ∨ member ∈ members := by
  induction members with
  | nil => exact .inl (List.mem_singleton.mp isMember)
  | cons first rest inductionHypothesis =>
      rcases Text.lt_or_eq_or_gt key first.1 with less | same | greater
      · rw [insertMember_of_lt less] at isMember
        exact List.mem_cons.mp isMember
      · rw [insertMember_of_eq same] at isMember
        exact (List.mem_cons.mp isMember).imp id (List.mem_cons_of_mem _)
      · rw [insertMember_of_gt greater] at isMember
        rcases List.mem_cons.mp isMember with rfl | inRest
        · exact .inr List.mem_cons_self
        · exact (inductionHypothesis inRest).imp id (List.mem_cons_of_mem _)

/-- The keys come in strictly increasing order of their bytes. -/
def KeysIncrease (members : List (String × Value)) : Prop :=
  members.Pairwise fun one other => Text.encode one.1 < Text.encode other.1

theorem keysIncrease_iff (members : List (String × Value)) :
    KeysIncrease members ↔ members.Pairwise fun one other => one.1 < other.1 := by
  simp only [KeysIncrease, Text.encode_lt_encode_iff]

/-- A member that is put at its place leaves the keys in order. -/
theorem keysIncrease_insertMember
    {members : List (String × Value)}
    (increase : KeysIncrease members)
    (key : String)
    (value : Value) :
    KeysIncrease (insertMember key value members) := by
  rw [keysIncrease_iff] at increase ⊢
  induction members with
  | nil => exact List.pairwise_singleton _ _
  | cons first rest inductionHypothesis =>
      obtain ⟨least, restIncreases⟩ := List.pairwise_cons.mp increase
      rcases Text.lt_or_eq_or_gt key first.1 with less | same | greater
      · rw [insertMember_of_lt less]
        refine List.pairwise_cons.mpr ⟨fun member isMember => ?_, increase⟩
        rcases List.mem_cons.mp isMember with rfl | inRest
        · exact less
        · exact String.lt_trans less (least member inRest)
      · rw [insertMember_of_eq same]
        exact List.pairwise_cons.mpr
          ⟨fun member inRest => same ▸ least member inRest, restIncreases⟩
      · rw [insertMember_of_gt greater]
        refine List.pairwise_cons.mpr
          ⟨fun member isMember => ?_, inductionHypothesis restIncreases⟩
        rcases mem_insertMember isMember with rfl | inRest
        · exact greater
        · exact least member inRest

/-- A member whose key is greater than all others is put at the end. -/
theorem insertMember_of_greatest
    {members : List (String × Value)}
    {key : String}
    (greatest : ∀ member ∈ members, member.1 < key)
    (value : Value) :
    insertMember key value members = members ++ [(key, value)] := by
  induction members with
  | nil => rfl
  | cons first rest inductionHypothesis =>
      rw [insertMember_of_gt (greatest first List.mem_cons_self), List.cons_append,
        inductionHypothesis fun member inRest => greatest member (List.mem_cons_of_mem _ inRest)]

/-- Members with different keys can be put at their places in either order. -/
theorem insertMember_comm_of_lt
    {key other : String}
    (less : key < other)
    (value otherValue : Value)
    (members : List (String × Value)) :
    insertMember key value (insertMember other otherValue members) =
      insertMember other otherValue (insertMember key value members) := by
  have passes : ∀ rest : List (String × Value),
      insertMember other otherValue ((key, value) :: rest) =
        (key, value) :: insertMember other otherValue rest :=
    insertMember_of_gt less otherValue
  induction members with
  | nil => exact (insertMember_of_lt less value []).trans (passes []).symm
  | cons first rest inductionHypothesis =>
      rcases Text.lt_or_eq_or_gt other first.1 with otherLess | otherSame | otherGreater
      · rw [insertMember_of_lt otherLess, insertMember_of_lt (String.lt_trans less otherLess),
          passes, insertMember_of_lt less, insertMember_of_lt otherLess]
      · have keyLess : key < first.1 := otherSame ▸ less
        rw [insertMember_of_eq otherSame, insertMember_of_lt keyLess, passes,
          insertMember_of_eq otherSame, insertMember_of_lt less]
      · rw [insertMember_of_gt otherGreater]
        rcases Text.lt_or_eq_or_gt key first.1 with keyLess | keySame | keyGreater
        · rw [insertMember_of_lt keyLess, insertMember_of_lt keyLess, passes,
            insertMember_of_gt otherGreater]
        · rw [insertMember_of_eq keySame, insertMember_of_eq keySame, passes]
        · rw [insertMember_of_gt keyGreater, insertMember_of_gt keyGreater,
            insertMember_of_gt otherGreater, inductionHypothesis]

/-- Members with different keys can be put at their places in either order. -/
theorem insertMember_comm
    {key other : String}
    (different : key ≠ other)
    (value otherValue : Value)
    (members : List (String × Value)) :
    insertMember key value (insertMember other otherValue members) =
      insertMember other otherValue (insertMember key value members) := by
  rcases Text.lt_or_eq_or_gt key other with less | same | greater
  · exact insertMember_comm_of_lt less value otherValue members
  · exact absurd same different
  · exact (insertMember_comm_of_lt greater otherValue value members).symm

/-! ## Values by their depth -/

namespace Value

/-- What holds of a bracket if it holds of all that the bracket holds, and holds of all other
values, holds of every value. -/
theorem induct
    {motive : Value → Prop}
    (null : motive .null)
    (flag : ∀ value, motive (.flag value))
    (number : ∀ number, motive (.number number))
    (text : ∀ text, motive (.text text))
    (list : ∀ items, (∀ item ∈ items, motive item) → motive (.list items))
    (object : ∀ members, (∀ member ∈ members, motive member.2) → motive (.object members))
    (value : Value) :
    motive value :=
  @Value.rec motive (fun items => ∀ item ∈ items, motive item)
    (fun members => ∀ member ∈ members, motive member.2) (fun member => motive member.2)
    null flag number text list object
    (fun _ member => absurd member List.not_mem_nil)
    (fun _ _ first rest item member =>
      (List.mem_cons.mp member).elim (fun same => same ▸ first) (rest item))
    (fun _ member => absurd member List.not_mem_nil)
    (fun _ _ first rest member isMember =>
      (List.mem_cons.mp isMember).elim (fun same => same ▸ first) (rest member))
    (fun _ _ held => held)
    value

theorem itemsNesting_le_iff
    (items : List Value)
    (bound : Nat) :
    itemsNesting items ≤ bound ↔ ∀ item ∈ items, item.nesting ≤ bound := by
  induction items with
  | nil => simp [itemsNesting]
  | cons item items inductionHypothesis =>
      rw [itemsNesting, Nat.max_le, inductionHypothesis, List.forall_mem_cons]

theorem membersNesting_le_iff
    (members : List (String × Value))
    (bound : Nat) :
    membersNesting members ≤ bound ↔ ∀ member ∈ members, member.2.nesting ≤ bound := by
  induction members with
  | nil => simp [membersNesting]
  | cons member members inductionHypothesis =>
      rw [membersNesting, Nat.max_le, inductionHypothesis, List.forall_mem_cons]

theorem sortedItems_eq_map (items : List Value) : sortedItems items = items.map sorted := by
  induction items with
  | nil => rfl
  | cons item items inductionHypothesis => rw [sortedItems, inductionHypothesis, List.map_cons]

/-- Members that are sorted onto others are the others or come from those that are sorted. -/
theorem mem_sortedOnto
    {held members : List (String × Value)}
    {member : String × Value}
    (isMember : member ∈ sortedOnto held members) :
    member ∈ held ∨ ∃ given ∈ members, member = (given.1, given.2.sorted) := by
  induction members generalizing held with
  | nil => exact .inl isMember
  | cons first rest inductionHypothesis =>
      rcases inductionHypothesis isMember with inHeld | ⟨given, inRest, same⟩
      · rcases mem_insertMember inHeld with same | inHeld
        · exact .inr ⟨first, List.mem_cons_self, same⟩
        · exact .inl inHeld
      · exact .inr ⟨given, List.mem_cons_of_mem _ inRest, same⟩

/-- Sorting opens no more brackets. -/
theorem nesting_sorted_le (value : Value) : value.sorted.nesting ≤ value.nesting := by
  induction value using induct with
  | list items inductionHypothesis =>
      refine Nat.succ_le_succ ((itemsNesting_le_iff _ _).mpr ?_)
      rw [sortedItems_eq_map]
      intro item member
      obtain ⟨given, isItem, rfl⟩ := List.mem_map.mp member
      exact Nat.le_trans (inductionHypothesis given isItem)
        ((itemsNesting_le_iff _ _).mp (Nat.le_refl _) given isItem)
  | object members inductionHypothesis =>
      refine Nat.succ_le_succ ((membersNesting_le_iff _ _).mpr fun member isMember => ?_)
      rcases mem_sortedOnto isMember with none | ⟨given, isGiven, rfl⟩
      · exact absurd none List.not_mem_nil
      · exact Nat.le_trans (inductionHypothesis given isGiven)
          ((membersNesting_le_iff _ _).mp (Nat.le_refl _) given isGiven)
  | _ => exact Nat.le_refl _

/-! ## Numbers of a value -/

mutual

/-- Every number of the value has the property. -/
def HasNumbers (property : Number → Prop) : Value → Prop
  | .number given => property given
  | .list items => ItemsHaveNumbers property items
  | .object members => MembersHaveNumbers property members
  | _ => True

/-- Every number of the items has the property. -/
def ItemsHaveNumbers (property : Number → Prop) : List Value → Prop
  | [] => True
  | item :: items => HasNumbers property item ∧ ItemsHaveNumbers property items

/-- Every number of the members has the property. -/
def MembersHaveNumbers (property : Number → Prop) : List (String × Value) → Prop
  | [] => True
  | (_, value) :: members => HasNumbers property value ∧ MembersHaveNumbers property members

end

variable {property : Number → Prop}

theorem itemsHaveNumbers_iff (items : List Value) :
    ItemsHaveNumbers property items ↔ ∀ item ∈ items, item.HasNumbers property := by
  induction items with
  | nil => simp [ItemsHaveNumbers]
  | cons item items inductionHypothesis =>
      rw [ItemsHaveNumbers, inductionHypothesis, List.forall_mem_cons]

theorem membersHaveNumbers_iff (members : List (String × Value)) :
    MembersHaveNumbers property members ↔ ∀ member ∈ members, member.2.HasNumbers property := by
  induction members with
  | nil => simp [MembersHaveNumbers]
  | cons member members inductionHypothesis =>
      rw [MembersHaveNumbers, inductionHypothesis, List.forall_mem_cons]

/-- Sorting brings in no numbers. -/
theorem hasNumbers_sorted
    {value : Value}
    (has : value.HasNumbers property) :
    value.sorted.HasNumbers property := by
  induction value using induct with
  | list items inductionHypothesis =>
      refine (itemsHaveNumbers_iff _).mpr ?_
      rw [sortedItems_eq_map]
      intro item member
      obtain ⟨given, isItem, rfl⟩ := List.mem_map.mp member
      exact inductionHypothesis given isItem ((itemsHaveNumbers_iff _).mp has given isItem)
  | object members inductionHypothesis =>
      refine (membersHaveNumbers_iff _).mpr fun member isMember => ?_
      rcases mem_sortedOnto isMember with none | ⟨given, isGiven, rfl⟩
      · exact absurd none List.not_mem_nil
      · exact inductionHypothesis given isGiven
          ((membersHaveNumbers_iff _).mp has given isGiven)
  | _ => exact has

/-! ## Values in order -/

mutual

/-- At every depth the keys come in strictly increasing order of their bytes. -/
def IsOrdered : Value → Prop
  | .list items => ItemsAreOrdered items
  | .object members => KeysIncrease members ∧ MembersAreOrdered members
  | _ => True

/-- Every item is in order. -/
def ItemsAreOrdered : List Value → Prop
  | [] => True
  | item :: items => IsOrdered item ∧ ItemsAreOrdered items

/-- The value of every member is in order. -/
def MembersAreOrdered : List (String × Value) → Prop
  | [] => True
  | (_, value) :: members => IsOrdered value ∧ MembersAreOrdered members

end

theorem itemsAreOrdered_iff (items : List Value) :
    ItemsAreOrdered items ↔ ∀ item ∈ items, item.IsOrdered := by
  induction items with
  | nil => simp [ItemsAreOrdered]
  | cons item items inductionHypothesis =>
      rw [ItemsAreOrdered, inductionHypothesis, List.forall_mem_cons]

theorem membersAreOrdered_iff (members : List (String × Value)) :
    MembersAreOrdered members ↔ ∀ member ∈ members, member.2.IsOrdered := by
  induction members with
  | nil => simp [MembersAreOrdered]
  | cons member members inductionHypothesis =>
      rw [MembersAreOrdered, inductionHypothesis, List.forall_mem_cons]

theorem keysIncrease_sortedOnto
    {held : List (String × Value)}
    (increase : KeysIncrease held)
    (members : List (String × Value)) :
    KeysIncrease (sortedOnto held members) := by
  induction members generalizing held with
  | nil => exact increase
  | cons member members inductionHypothesis =>
      exact inductionHypothesis (keysIncrease_insertMember increase _ _)

/-- A value that is sorted is in order. -/
theorem isOrdered_sorted (value : Value) : value.sorted.IsOrdered := by
  induction value using induct with
  | list items inductionHypothesis =>
      refine (itemsAreOrdered_iff _).mpr ?_
      rw [sortedItems_eq_map]
      intro item member
      obtain ⟨given, isItem, rfl⟩ := List.mem_map.mp member
      exact inductionHypothesis given isItem
  | object members inductionHypothesis =>
      refine ⟨keysIncrease_sortedOnto List.Pairwise.nil members,
        (membersAreOrdered_iff _).mpr fun member isMember => ?_⟩
      rcases mem_sortedOnto isMember with none | ⟨given, isGiven, rfl⟩
      · exact absurd none List.not_mem_nil
      · exact inductionHypothesis given isGiven
  | _ => trivial

/-- Members in order that come after all others are put at the end, one after the other. -/
theorem sortedOnto_of_keysIncrease
    {held members : List (String × Value)}
    (increase : KeysIncrease (held ++ members))
    (sorted : ∀ member ∈ members, member.2.sorted = member.2) :
    sortedOnto held members = held ++ members := by
  induction members generalizing held with
  | nil => exact (List.append_nil held).symm
  | cons member members inductionHypothesis =>
      have greatest : ∀ other ∈ held, other.1 < member.1 := fun other isHeld =>
        (List.pairwise_append.mp ((keysIncrease_iff _).mp increase)).2.2 other isHeld member
          List.mem_cons_self
      have moved : held ++ member :: members = held ++ [member] ++ members := by
        rw [List.append_assoc, List.singleton_append]
      rw [moved] at increase ⊢
      rw [sortedOnto, sorted member List.mem_cons_self, insertMember_of_greatest greatest]
      exact inductionHypothesis increase fun other isMember =>
        sorted other (List.mem_cons_of_mem _ isMember)

/-- A value in order is sorted already. -/
theorem sorted_of_isOrdered
    {value : Value}
    (ordered : value.IsOrdered) :
    value.sorted = value := by
  induction value using induct with
  | list items inductionHypothesis =>
      have same : items.map Value.sorted = items := by
        refine (List.map_congr_left fun item isItem => ?_).trans (List.map_id items)
        exact inductionHypothesis item isItem ((itemsAreOrdered_iff _).mp ordered item isItem)
      rw [Value.sorted, sortedItems_eq_map, same]
  | object members inductionHypothesis =>
      obtain ⟨increase, membersOrdered⟩ := ordered
      have same : sortedOnto [] members = [] ++ members :=
        sortedOnto_of_keysIncrease increase fun member isMember =>
          inductionHypothesis member isMember
            ((membersAreOrdered_iff _).mp membersOrdered member isMember)
      rw [Value.sorted, same, List.nil_append]
  | _ => rfl

/-! ## Values that differ in the order of members -/

/-- The values differ at most in the order of members with different keys, at any depth. -/
inductive Like : Value → Value → Prop
  | refl (value : Value) : Like value value
  | trans
      {one other third : Value}
      (first : Like one other)
      (second : Like other third) :
      Like one third
  | item
      (before after : List Value)
      {one other : Value}
      (like : Like one other) :
      Like (.list (before ++ one :: after)) (.list (before ++ other :: after))
  | member
      (before after : List (String × Value))
      (key : String)
      {one other : Value}
      (like : Like one other) :
      Like (.object (before ++ (key, one) :: after)) (.object (before ++ (key, other) :: after))
  | swap
      (before after : List (String × Value))
      {one other : String × Value}
      (different : one.1 ≠ other.1) :
      Like (.object (before ++ one :: other :: after)) (.object (before ++ other :: one :: after))

theorem sortedOnto_append
    (held one other : List (String × Value)) :
    sortedOnto held (one ++ other) = sortedOnto (sortedOnto held one) other := by
  induction one generalizing held with
  | nil => rfl
  | cons member one inductionHypothesis => exact inductionHypothesis _

/-- Values that differ in the order of members are sorted into the same value. -/
theorem Like.sorted_eq
    {one other : Value}
    (like : one.Like other) :
    one.sorted = other.sorted := by
  induction like with
  | refl value => rfl
  | trans _ _ first second => exact first.trans second
  | item before after _ same =>
      simp only [Value.sorted, sortedItems_eq_map, List.map_append, List.map_cons, same]
  | member before after key _ same =>
      simp only [Value.sorted, sortedOnto_append, sortedOnto, same]
  | swap before after different =>
      simp only [Value.sorted, sortedOnto_append, sortedOnto]
      rw [insertMember_comm different]

end Value

end Json
end KnowledgeClient
