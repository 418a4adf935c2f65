/-!
# Coprocessor mnemonics

The eight escape opcodes and their operand byte name an operation of a floating-point unit that the
machine does not have. Only the mnemonic is read; pairs that name nothing are no instructions.
-/

namespace RealMode.Coprocessor

private def absent : String := ""

/-- Mnemonics of the memory forms, by escape opcode and register field. -/
def memoryNames : List (List String) :=
  [["Fadd", "Fmul", "Fcom", "Fcomp", "Fsub", "Fsubr", "Fdiv", "Fdivr"],
   ["Fld", absent, "Fst", "Fstp", "Fldenv", "Fldcw", "Fnstenv", "Fnstcw"],
   ["Fiadd", "Fimul", "Ficom", "Ficomp", "Fisub", "Fisubr", "Fidiv", "Fidivr"],
   ["Fild", "Fisttp", "Fist", "Fistp", absent, "Fld", absent, "Fstp"],
   ["Fadd", "Fmul", "Fcom", "Fcomp", "Fsub", "Fsubr", "Fdiv", "Fdivr"],
   ["Fld", "Fisttp", "Fst", "Fstp", "Frstor", absent, "Fnsave", "Fnstsw"],
   ["Fiadd", "Fimul", "Ficom", "Ficomp", "Fisub", "Fisubr", "Fidiv", "Fidivr"],
   ["Fild", "Fisttp", "Fist", "Fistp", "Fbld", "Fild", "Fbstp", "Fistp"]]

/-- Mnemonics of the register forms whose name does not depend on the register. -/
def registerNames : List (List String) :=
  [["Fadd", "Fmul", "Fcom", "Fcomp", "Fsub", "Fsubr", "Fdiv", "Fdivr"],
   ["Fld", "Fxch", absent, "Fstpnce", absent, absent, absent, absent],
   ["Fcmovb", "Fcmove", "Fcmovbe", "Fcmovu", absent, absent, absent, absent],
   ["Fcmovnb", "Fcmovne", "Fcmovnbe", "Fcmovnu", absent, "Fucomi", "Fcomi", absent],
   ["Fadd", "Fmul", "Fcom", "Fcomp", "Fsubr", "Fsub", "Fdivr", "Fdiv"],
   ["Ffree", "Fxch", "Fst", "Fstp", "Fucom", "Fucomp", absent, absent],
   ["Faddp", "Fmulp", "Fcomp", absent, "Fsubrp", "Fsubp", "Fdivrp", "Fdivp"],
   ["Ffreep", "Fxch", "Fstp", "Fstp", absent, "Fucomip", "Fcomip", absent]]

/-- Register forms with a name of their own. -/
def singleNames : List ((Nat × Nat × Nat) × String) :=
  [((1, 2, 0), "Fnop"),
   ((1, 4, 0), "Fchs"), ((1, 4, 1), "Fabs"), ((1, 4, 4), "Ftst"), ((1, 4, 5), "Fxam"),
   ((1, 5, 0), "Fld1"), ((1, 5, 1), "Fldl2t"), ((1, 5, 2), "Fldl2e"), ((1, 5, 3), "Fldpi"),
   ((1, 5, 4), "Fldlg2"), ((1, 5, 5), "Fldln2"), ((1, 5, 6), "Fldz"),
   ((1, 6, 0), "F2xm1"), ((1, 6, 1), "Fyl2x"), ((1, 6, 2), "Fptan"), ((1, 6, 3), "Fpatan"),
   ((1, 6, 4), "Fxtract"), ((1, 6, 5), "Fprem1"), ((1, 6, 6), "Fdecstp"), ((1, 6, 7), "Fincstp"),
   ((1, 7, 0), "Fprem"), ((1, 7, 1), "Fyl2xp1"), ((1, 7, 2), "Fsqrt"), ((1, 7, 3), "Fsincos"),
   ((1, 7, 4), "Frndint"), ((1, 7, 5), "Fscale"), ((1, 7, 6), "Fsin"), ((1, 7, 7), "Fcos"),
   ((2, 5, 1), "Fucompp"),
   ((3, 4, 0), "Fneni"), ((3, 4, 1), "Fndisi"), ((3, 4, 2), "Fnclex"), ((3, 4, 3), "Fninit"),
   ((3, 4, 4), "Fnsetpm"), ((6, 3, 1), "Fcompp"), ((7, 4, 0), "Fnstsw")]

private def entry (table : List (List String)) (escape reg : Nat) : Option String := do
  let row ← table[escape]?
  let name ← row[reg]?
  if name = absent then none else some name

def memoryName? (escape reg : Nat) : Option String := entry memoryNames escape reg

def registerName? (escape reg rm : Nat) : Option String :=
  (singleNames.lookup (escape, reg, rm)).or (entry registerNames escape reg)

end RealMode.Coprocessor
