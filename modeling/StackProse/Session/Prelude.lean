/-!
# The prelude

Definitions that every program can use, written in the language itself. The prelude is run once,
before any program.
-/

namespace StackProse

/-- The source of the prelude. -/
def preludeSource : String :=
"~~ Definitions every program can use. Loaded once, before any user code.

Def Do (Def F; F);
Def Drop (Let X);
Def Swap (Let X; Let Y; Y X);
Def Twin (Let X; X X);
Def Triplet (Let X; X X X);

~ Conditionals take a boolean and a block. ~
Def When (Let C; Let F; Do If C F ());
Def Unless (Let C; Let F; Do If C () F);

~ Loops take a condition block and a body block. ~
Def While (Let Cond; Let Body; Do If Do Cond (Do Body; While Cond Body) ());
Def Until (Let Cond; Let Body; Do If Do Cond () (Do Body; Until Cond Body));

Def For (Let L; Let F; Unless Empty? L (Do F First L; For Rest L F));

Def Map (
  Let F;
  Let L;
  Do If Empty? L (Empty) (Push Do F First L Map F Rest L);
);

Def Filter (
  Let P;
  Let L;
  Do If Empty? L (Empty) (
    Let R be Filter P Rest L;
    Let X be First L;
    Do If Do P X (Push X R) (R);
  );
);
"

end StackProse
