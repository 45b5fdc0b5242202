import Dalvik.Table

/-!
The classes whose methods programs can call, by the signatures under which they are called.
-/

namespace Dalvik

inductive Method where
  /-- Makes a new object of the class that has the given short name. -/
  | create (className : String)
  | textOfChars
  | charAt
  | toChars
  | intern
  | textOfRange
  | length
  | substring
  | initBuilder
  | append
  | builderText
  /-- Reads a decimal numeral, or else one in base sixteen. -/
  | parseInt
  /-- Reads a decimal numeral only. -/
  | parseDecimal
deriving DecidableEq, Repr

/-- For each class name, its methods by signature. -/
abbrev Library := Table (Table Method)

namespace Library

def newInstance : String := "new-instance"

def stringMethods : Table Method := [
  (newInstance, .create "String"),
  ("<init>([C)V", .textOfChars),
  ("charAt(I)C", .charAt),
  ("toCharArray()[C", .toChars),
  ("intern()Ljava/lang/String;", .intern),
  ("valueOf([CII)Ljava/lang/String;", .textOfRange),
  ("length()I", .length),
  ("substring(II)Ljava/lang/String;", .substring)]

def stringBuilderMethods : Table Method := [
  (newInstance, .create "StringBuilder"),
  ("<init>()V", .initBuilder),
  ("append(Ljava/lang/String;)Ljava/lang/StringBuilder;", .append),
  ("append(C)Ljava/lang/StringBuilder;", .append),
  ("toString()Ljava/lang/String;", .builderText)]

def integerMethods : Table Method := [
  (newInstance, .create "Integer"),
  ("parseInt(Ljava/lang/String;I)I", .parseInt)]

/-- Integers that are read in base ten only. -/
def decimalMethods : Table Method := [
  (newInstance, .create "Integer"),
  ("parseInt(Ljava/lang/String;I)I", .parseDecimal)]

def stringClass : String := "java.lang.String"

def stringBuilderClass : String := "java.lang.StringBuilder"

def integerClass : String := "java.lang.Integer"

def standard : Library := [
  (stringClass, stringMethods),
  (stringBuilderClass, stringBuilderMethods),
  (integerClass, integerMethods)]

end Library

end Dalvik
