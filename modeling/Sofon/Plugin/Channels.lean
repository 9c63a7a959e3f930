import Sofon.Monitor.Service
import Sofon.Plugin.Service

/-!
# The channels of a monitor

A client lists the plugins that are to report a monitor.  The list is stored as one text,
joined with commas (`channelsToString`), and is cut at the commas when the row is read
(`channelsFromString`).  `channelEnabled` asks whether a plugin is in the list, and takes an
empty list for all plugins.

Nothing is escaped and nothing is checked, so a name with a comma in it comes back as several
names, and a list of one empty name comes back as the empty list, which says the opposite.

Joining and cutting are undone name by name: a name comes back as its pieces
(`channelPieces`), a name without a comma as itself, and what is read back is the pieces of all
names, unless the text is empty (`channelsFromString_channelsToString`).  The text is empty for
the list of one empty name and for no other list that has a name in it
(`channelsToString_eq_empty_iff`).

Then the decision is a matter of membership.  Pieces have no comma, so a plugin whose own name
has none is among them exactly if it is one of the pieces of some name.
`channelEnabled_stored_iff` says for every list and every plugin whether the decision is the
one the client made, and for which lists it is for all plugins.
-/

namespace Sofon

open MonitorRepository AlertService

/-- The names that a name is read back as. -/
def channelPieces (channel : String) : List String := channel.splitOn ","

variable {channels : List String} {channel plugin : String}

theorem channelPieces_eq (channel : String) :
    channelPieces channel = (Text.split ',' channel.toList).map String.ofList :=
  String.splitOn_singleton channel ','

/-- A name without a comma is read back as it is. -/
theorem channelPieces_eq_singleton (h : ',' ∉ channel.toList) :
    channelPieces channel = [channel] := by
  rw [channelPieces_eq, Text.split_eq_singleton h, List.map_singleton, String.ofList_toList]

theorem not_mem_of_mem_channelPieces (h : plugin ∈ channelPieces channel) :
    ',' ∉ plugin.toList := by
  rw [channelPieces_eq] at h
  obtain ⟨p, hp, rfl⟩ := List.mem_map.mp h
  rw [String.toList_ofList]
  exact Text.not_mem_of_mem_split hp

/-! ## What is read back -/

theorem toList_channelsToString (channels : List String) :
    (channelsToString channels).toList = Text.join ',' (channels.map String.toList) :=
  String.toList_intercalate

/-- The stored text is empty for a list of one empty name, and for the empty list. -/
theorem channelsToString_eq_empty_iff (h : channels ≠ []) :
    channelsToString channels = "" ↔ channels = [""] := by
  have hmap : channels.map String.toList ≠ [] := by rwa [Ne, List.map_eq_nil_iff]
  have hone : [""].map String.toList = [[]] := rfl
  rw [← String.toList_eq_nil_iff, toList_channelsToString, Text.join_eq_nil_iff hmap, ← hone]
  exact (List.map_injective_iff.mpr fun _ _ => String.toList_inj.mp).eq_iff

/-- **What is read back** are the pieces of the names, unless the text is empty. -/
theorem channelsFromString_channelsToString (h : channels ≠ []) :
    channelsFromString (channelsToString channels) =
      if channels = [""] then [] else channels.flatMap channelPieces := by
  have hmap : channels.map String.toList ≠ [] := by rwa [Ne, List.map_eq_nil_iff]
  rw [channelsFromString, if_congr (channelsToString_eq_empty_iff h) rfl rfl]
  refine if_congr Iff.rfl rfl ?_
  refine (String.splitOn_singleton _ ',').trans ?_
  rw [toList_channelsToString]
  change (Text.split ',' _).map _ = _
  rw [Text.split_join hmap, List.map_flatMap, List.flatMap_map]
  exact List.flatMap_congr fun channel _ => (channelPieces_eq channel).symm

/-! ## The decision -/

theorem channelEnabled_iff (h : channels ≠ []) :
    channelEnabled channels plugin = true ↔ plugin ∈ channels := by
  have hnonempty : channels.isEmpty = false := by simpa using h
  rw [channelEnabled, hnonempty, Bool.false_or, List.contains_iff_mem]

/-- **When the stored list decides as the one that was sent.**  A list of one empty name
decides so only for the plugin with the empty name; and a name with a comma must not be the
plugin's, nor may a piece of it be, unless the plugin is in the list anyway. -/
def DecidesAlike (channels : List String) (plugin : String) : Prop :=
  (channels = [""] → plugin = "") ∧ ∀ channel ∈ channels, ',' ∈ channel.toList →
    plugin ≠ channel ∧ (plugin ∈ channelPieces channel → plugin ∈ channels)

/-- A plugin is among the pieces as it is among the names. -/
theorem mem_flatMap_channelPieces_iff :
    (plugin ∈ channels.flatMap channelPieces ↔ plugin ∈ channels) ↔
      ∀ channel ∈ channels, ',' ∈ channel.toList →
        plugin ≠ channel ∧ (plugin ∈ channelPieces channel → plugin ∈ channels) := by
  rw [List.mem_flatMap]
  constructor
  · intro halike channel hchannel hcomma
    refine ⟨?_, fun hpiece => halike.mp ⟨channel, hchannel, hpiece⟩⟩
    rintro rfl
    obtain ⟨other, -, hpiece⟩ := halike.mpr hchannel
    exact not_mem_of_mem_channelPieces hpiece hcomma
  · intro hcommas
    constructor
    · rintro ⟨channel, hchannel, hpiece⟩
      by_cases hcomma : ',' ∈ channel.toList
      · exact (hcommas channel hchannel hcomma).2 hpiece
      · rw [channelPieces_eq_singleton hcomma, List.mem_singleton] at hpiece
        rwa [hpiece]
    · intro hplugin
      have hcomma : ',' ∉ plugin.toList := fun hcomma => (hcommas plugin hplugin hcomma).1 rfl
      refine ⟨plugin, hplugin, ?_⟩
      rw [channelPieces_eq_singleton hcomma]
      exact List.mem_singleton_self plugin

theorem channelEnabled_stored (h : channels ≠ []) :
    channelEnabled (channelsFromString (channelsToString channels)) plugin =
      channelEnabled channels plugin ↔ DecidesAlike channels plugin := by
  rw [channelsFromString_channelsToString h]
  split
  · rename_i hone
    rw [hone, Bool.eq_iff_iff, channelEnabled_iff (List.cons_ne_nil _ _), List.mem_singleton]
    simp [channelEnabled, DecidesAlike]
  · rename_i hone
    have hback : channels.flatMap channelPieces ≠ [] := by
      obtain ⟨channel, hchannel⟩ := List.exists_mem_of_ne_nil channels h
      have hpieces : channelPieces channel ≠ [] := by
        rw [channelPieces_eq, Ne, List.map_eq_nil_iff]
        exact List.splitOn_ne_nil _ _
      intro hnil
      exact hpieces (List.flatMap_eq_nil_iff.mp hnil channel hchannel)
    rw [Bool.eq_iff_iff, channelEnabled_iff hback, channelEnabled_iff h,
      mem_flatMap_channelPieces_iff, DecidesAlike]
    exact (and_iff_right fun hone' => absurd hone' hone).symm

/-- **Which choices survive storage**: for each plugin, and for all plugins at once.  These are
the lists of names without commas, but for the list of one empty name. -/
theorem channelEnabled_stored_iff (channels : List String) (h : channels ≠ []) :
    (∀ plugin, channelEnabled (channelsFromString (channelsToString channels)) plugin =
      channelEnabled channels plugin ↔ DecidesAlike channels plugin) ∧
    ((∀ plugin, channelEnabled (channelsFromString (channelsToString channels)) plugin =
      channelEnabled channels plugin) ↔
        channels ≠ [""] ∧ ∀ channel ∈ channels, ',' ∉ channel.toList) := by
  refine ⟨fun plugin => channelEnabled_stored h, ?_⟩
  rw [forall_congr' fun plugin => channelEnabled_stored h]
  constructor
  · intro hall
    refine ⟨fun hone => ?_, fun channel hchannel hcomma => ?_⟩
    · exact absurd ((hall pluginTypeResend).1 hone) (by decide)
    · exact ((hall channel).2 channel hchannel hcomma).1 rfl
  · rintro ⟨hone, hcommas⟩ plugin
    exact ⟨fun hone' => absurd hone' hone,
      fun channel hchannel hcomma => absurd hcomma (hcommas channel hchannel)⟩

/-- Both plugins by their names. -/
theorem channelEnabled_stored_sample : channelEnabled (channelsFromString (channelsToString
    [pluginTypeResend, pluginTypeZenduty])) "pager" =
      channelEnabled [pluginTypeResend, pluginTypeZenduty] "pager" :=
  (channelEnabled_stored_iff [pluginTypeResend, pluginTypeZenduty] (List.cons_ne_nil _ _)).2.mpr
    ⟨by decide, by decide⟩ "pager"

/-- Whoever sends one empty name chooses no plugin, and is served by all of them. -/
theorem empty_name_enables_all : ¬∀ (channels : List String) (plugin : String), channels ≠ [] →
    channelEnabled (channelsFromString (channelsToString channels)) plugin =
      channelEnabled channels plugin := by
  intro hall
  have hsame := hall [""] pluginTypeResend (List.cons_ne_nil _ _)
  exact absurd ((channelEnabled_stored (List.cons_ne_nil _ _)).mp hsame).1 (by decide)

end Sofon
