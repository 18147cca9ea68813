import VulkanPrefill.Line

/-!
# Markers

A header is not parsed. Everything is found by looking for these texts in single lines.
-/

namespace VulkanPrefill

namespace Marker

def structDeclaration : String := "typedef struct"

/-- What the line after a declaration holds when the struct has a structure type. -/
def structureTypeField : String := "VkStructureType"

def structureTypeEnum : String := "typedef enum VkStructureType"

def enumTerminator : String := ";"

end Marker

namespace Line

def declaresStruct (l : Line) : Bool :=
  l.contains Marker.structDeclaration

def namesStructureType (l : Line) : Bool :=
  l.contains Marker.structureTypeField

def declaresEnum (l : Line) : Bool :=
  l.contains Marker.structureTypeEnum

def endsEnum (l : Line) : Bool :=
  l.contains Marker.enumTerminator

end Line

end VulkanPrefill
