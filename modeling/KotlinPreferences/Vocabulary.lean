import KotlinPreferences.Text

/-!
# Known names

The qualified names that have a meaning for preferences, and what a generated file is called.
-/

namespace KotlinPreferences

namespace Vocabulary

/-- The package of the annotations, of the converters and of the default store. -/
def processorPackage : Text := "com.johngachihi.preferencesprocessor"

/-- The annotation that marks a preferences holder. -/
def preferencesMarker : Text := "com.johngachihi.preferencesprocessor.Preferences"

/-- The annotation that marks a preference. -/
def preferenceMarker : Text := "com.johngachihi.preferencesprocessor.Preference"

/-- The interface of all converters. -/
def converterInterface : Text := "com.johngachihi.preferencesprocessor.PreferenceConverter"

/-- The converter that leaves texts as they are; it is used where none is named. -/
def stringConverter : Text := "com.johngachihi.preferencesprocessor.StringConverter"

/-- The package of generated classes, unless the settings name another. -/
def defaultPackage : Text := "com.johngachihi.preferencesprocessor.preferences"

/-- The type of the store, unless the settings name another. -/
def defaultStoreType : Text := "com.johngachihi.preferencesprocessor.PreferencesStore"

/-- The name of the store inside a generated class. -/
def defaultStoreParam : Text := "prefStore"

/-- The extension of generated files. -/
def fileExtension : Text := "kt"

/-- The type of which every type is a subtype. -/
def anyType : Text := "kotlin.Any"

/-- The type of texts. -/
def stringType : Text := "kotlin.String"

end Vocabulary

end KotlinPreferences
