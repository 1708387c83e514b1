/-!
# Table of character names

The names and the other accepted names of characters, those of Hangul syllables and unified ideographs apart. A table
holds the names with one first letter in order. Small letters drop characters from the end of the name before, `a`
none, `b` one and so on, and what follows them up to the next small letter is put in their place. Line breaks do not
count.
-/

namespace ScopeAlgebra.Text.CharName

/-- The names that start with A. -/
def namesA : String := "aABACUSfC CURRENTiCORDIONfUNT OFiKaNOWLEDGEjTIVATE ARABIC FORM SHAPINGtSYMMETRIC SWAPPINGzUTE ACCENTfNGLEkDD
RESSED TO THE SUBJECTwHESIVE BANDAGEoI SHAKTIiLAM ALIF LENGTHENERpCAPITAL LETTER ALIFeBAbHEdCHIdDAALIeHAdEbF
AcGAbBEdHAcIbJIIMeKAFcHAcPOdLAAMeMIIMeNHAcUNcYAdObPEcQAAFeRAcSHAcINNYIIYHEkTUcUbVAcWAWdYAbHEdZALrONSONANT MO
DIFIERsDIGIT EIGHTfFIVEdOUReNINEeONEdSEVENeIXdTHREEeWOdZEROkGEMINATE CONSONANT MODIFIERuION MARKpHAMZAfINITI
AL EXCLAMATION MARKqQUESTION MARKvNASALIZATION MARKqUKTAfSMALL LETTER ALIFeBAbHEdCHIdDAALIeHAdEbFAcGAbBEdHAc
IbJIIMeKAFcHAcPOdLAAMeMIIMeNHAcUNcYAdObPEcQAAFeRAcSHAcINNYIIYHEkTUcUbVAcWAWdYAbHEdZALqVOWEL LENGTHENERuMETOS
eISSION TICKETSpULTeEGEAN CHECK MARKkDRY MEASURE FIRST SUBUNITzLIQUID MEASURE FIRST SUBUNITzdMEASURE SECON
D SUBUNIToTHIRD SUBUNITvNUMBER EIGHTa HUNDREDhTHOUSANDjYa THOUSANDpFIFTYa THOUSANDmVEa HUNDREDhTHOUSANDmORTY
a THOUSANDmURa HUNDREDhTHOUSANDnNINEa HUNDREDhTHOUSANDjTYa THOUSANDpONEa HUNDREDhTHOUSANDmSEVENa HUNDREDhTHO
USANDjTYa THOUSANDpIXa HUNDREDhTHOUSANDjTYa THOUSANDoTENa THOUSANDlHIRTYa THOUSANDnREEa HUNDREDhTHOUSANDnWEN
TYa THOUSANDnOa HUNDREDhTHOUSANDtWEIGHT BASE UNITjFIRST SUBUNITmOURTH SUBUNIToSECOND SUBUNIToTHIRD SUBUNITtO
RD SEPARATOR DOTdLINEyRIAL TRAMWAYnFGHANI SIGNlHOM CONSONANT SIGN MEDIAL LAbIGATING RAlRAyDIGIT EIGHTfFIVEdO
UReNINEeONEdSEVENeIXdTHREEeWOdZEROkLETTER AaLTERNATE BAcGAcTAmBAbHAdCAbHAdDAbDAbHAdHAdGAbHAdHAcJAbHAdKAbHAdL
AbLAdMAcNAbGAcNAcYAdPAbHAdRAcSAcTAbHAcTAbHAlNUMBER TENcWENTYnSIGN KILLERgRULAIfSECTIONgMALL SECTIONrYMBOL VI
jVOWEL SIGN AaAbIbMbWcEbIaIcObUaUrIRPLANEa ARRIVINGiDEPARTURErKTIESELSKABlLARM CLOCKjCHEMICAL SYMBOL FOR AIR
cLEMBICfKALIa-2gUMdMALGAMgNTIMONY ORElQUA REGIAa-2hVITAEa-2iFORTISjRSENICgSHESeURIPIGMENTlBATH OF MARYeVAPOU
RSoISMUTH OREkLACK SULFURlORAXa-2b3gRICKfCADUCEUSgLXcPUT MORTUUMmINNABARhOPPER ANTIMONIATElOREjROCUS OF COPP
ERa-2iIRONmUCIBLEa-2b3b4b5kDAY-NIGHTiISSOLVEa-2hTILLhEARTHfFIREeGOLDdUMdHALF DRAMeOUNCEjORSE DUNGiUReIRON OR
Ea-2g-COPPER OREpLEAD OREhODESTONEjMARCASITEiERCURY SUBLIMATEa-2b3sONTHfNIGHTdTREfOILdPHILOSOPHERS SULFURsO
T ASHEShWDERaED BRICKnRECIPITATEkURIFYeTREFACTIONmQUICK LIMEhNTESSENCEmREALGARa-2hGULUSa OF ANTIMONYa-2kIRON
i-2b3b4hTORTfOCK SALTa-2lSAL-AMMONIACjTa OF ANTIMONYiCOPPER ANTIMONIATEzCEPTER OF JOVEoILVERfOAPdPIRITfTARRE
D TRIDENTnRATUM SUPER STRATUMa-2wUBLIMATE OF ANTIMONYiCOPPERgSALT OF ANTIMONYiCOPPERtIONjLFURgTARTARa-2hIN O
REeCTUREhRIDENTgUTTYfURINEfVERDIGRISiINEGARa OF ANTIMONYm-2b3hTRIOLa-2jWATERdXxEF SYMBOLiMBICeRTdIEN MONSTER
lL AROUND-PROFILEoEQUAL TOkMaOST EQUAL OR EQUAL TOlTOa WITH CIRCUMFLEX ACCENTzlTERNATE ONE-WAY LEFT WAY TRAF
FICzbIVE KEY SYMBOLvMALGAMATION OR COPRODUCTxBULANCEhERICAN FOOTBALLpPERSANDgHORAgNATOLIAN HIEROGLYPH A001b2
b3b4b5b6b7b8b9c10aAc1b2b3b4b5b6b7b8b9c20b1b2b3b4b5b6aAc7b8b9c30b1b2b3b4b5b6b7b8b9aAd40b1aAc2b3b4b5aAc6aAbBc7
b8b9c50b1b2b3b4b5b6b7b8b9c60b1b2b3b4b5b6aAbBbCc7b8b9c70b1b2b3b4b5b6b7b8b9c80b1b2b3b4b5b6b7b8b9c90b1b2b3b4b5b
6b7aAc8aAc9d100aAc1aAc2aAc3b4aAbBbCc5aAbBc6b7aAbBbCc8b9c10aAbBc1b2b3b4b5aAc6b7b8b9c20b1b2b3b4b5aAc6b7b8b9c30
b1b2b3b4b5aAc6b7b8b9c40b1b2b3b4b5b6b7b8b9c50b1b2b3b4b5b6b7b8b9c60b1b2b3b4b5b6b7b8b9c70b1b2b3b4b5b6b7b8b9c80b
1b2b3b4b5b6b7b8b9c90b1b2b3b4b5b6b7b8b9d200b1b2aAbBc3b4b5b6b7aAc8b9aAd10b1b2b3b4b5aAc6aAc7b8b9c20b1b2b3b4b5b6
b7aAc8b9c30b1b2b3b4b5b6b7b8b9c40b1b2b3b4b5b6b7b8b9c50b1b2b3b4b5b6b7b8b9c60b1b2b3b4b5b6b7aAc8b9c70b1b2b3b4b5b
6b7b8b9c80b1b2b3b4b5b6b7b8b9aAd90b1b2b3b4aAc5b6b7b8b9aAe300b1b2b3b4b5b6b7b8b9aAd10b1b2b3b4b5b6b7b8b9c20b1b2b
3b4b5b6b7b8b9aAd30b1b2AbBbCc3b4b5b6aAbBbCc7b8b9c40b1b2b3b4b5b6b7b8b9c50b1b2b3b4b5b6b7b8b9aAd60b1b2b3b4aAc5b6
b7b8aAc9c70b1aAc2b3b4b5b6b7b8b9c80b1aAc2b3 RA OR RIjAc4b5b6aAc7b8b9c90b1b2b3 EIGHTh4b5b6b7b8b9d400b1b2b3b4b5
b6b7b8b9c10 BEGIN LOGOGRAM MARKuA END LOGOGRAM MARKu1b2b3b4b5b6b7b8b9c20b1b2b3b4b5b6b7b8b9c30b1b2b3b4b5b6b7b
8b9c40b1b2b3b4b5b6b7b8b9c50aAc1b2b3b4b5b6b7aAc8b9c60b1b2b3b4b5b6b7b8b9c70b1b2b3b4b5b6b7b8b9c80b1b2b3b4b5b6b7
b8b9c90b1b2b3b4b5b6b7d501b2b3b4b5b6b7b8b9c10b1b2b3b4b5b6b7b8b9c20b1b2b3b4b5b6b7b8b9c30uMICAL HEARToCHOReD WI
TH DOTkGER SYMBOLjLEa WITH S INSIDEiUNDERBARqRY FACEhSTROM SIGNkUISHED FACEmKHcTaENNA WITH BARSoICLOCKWISE C
LOSED CIRCLE ARROWsONTOUR INTEGRALqDOWNWARDS AND UPWARDS OPEN CIRCLE ARROWSzpGAPPED CIRCLE ARROWtINTEGRATION
lOPEN CIRCLE ARROWrTOP SEMICIRCLE ARROWtRIANGLE-HEADED BOTTOM U-SHAPED ARROWvLEFT U-SHAPED ARROWtOPEN CIRCL
E ARROWrRIGHT U-SHAPED ARROWuTOP U-SHAPED ARROWzwPCbL FUNCTIONAL SYMBOL ALPHAa UNDERBARoBACKSLASH BARnCIRCL
E BACKSLASHjDIAERESISjJOTdSTARcILEfUNDERBARoOMMA BARjDEL DIAERESISjSTILEfTILDEgTA STILEfUNDERBARnIAMOND UNDE
RBARpOWN CARET TILDElSHOE STILEkTACK JOTdUNDERBARoWARDS VANEoEPSILON UNDERBARqGREATER-THAN DIAERESISwI-BEAMf
OTAa UNDERBARnJOT DIAERESISjUNDERBARmLEFT SHOE STILElWARDS VANEoOMEGAa UNDERBARoQUADa BACKSLASHjCIRCLEfOLONf
DELaTAeIAMONDfVIDEfOWN CARETgWARDS ARROWpEQUALfGREATER-THANmJOTdLEFTWARDS ARROWnSS-THANjNOT EQUALjQUESTIONiR
IGHTWARDS ARROWqSLASHfUP CARETgWARDS ARROWqOTE QUADeUNDERBARoRHOcIGHTWARDS VANEpSEMICOLON UNDERBARrLASH BARi
QUISH QUADkTAR DIAERESISmILE TILDElTILDE DIAERESISpUP CARET TILDElSHOE JOTiTACK DIAERESISjJOTdOVERBARnWARD
S VANEmZILDEzOLLONeSTROPHEiPLICATION PROGRAM COMMANDyROACHES THE LIMITpXIMATELY BUT NOT ACTUALLY EQUAL TOzEQ
UAL OR EQUAL TOlTOa OR THE IMAGE OFzmQUARIUShRABIC BASELINE ROUND DOTsCOMMAeURLY DAMMAaTANiFATHAaTANiKASRAaT
ANoDAMMAa ISOLATED FORMnMEDIAL FORMlWITH DOTjTANa ISOLATED FORMuTE SEPARATORnECIMAL SEPARATORqISPUTED END O
F AYAHtOUBLE RIGHT ARROWHEAD ABOVEa WITH DOTzgD MADDAnEMPTY CENTRE HIGH STOPjLOW STOPuND OF AYAHeTEXT MARKqF
ATHAa ISOLATED FORMnMEDIAL FORMlWITH DOT ABOVEjRINGeTWO DOTSoTANa ISOLATED FORMvIVE POINTED STARqOOTNOTE MAR
KERoULL STOPjHALF MADDA OVER MADDAtMZA ABOVEfBELOWlINVERTED DAMMAoKASRAa ISOLATED FORMnMEDIAL FORMlWITH DO
T BELOWpTANa ISOLATED FORMwLARGE CIRCLE BELOWmROUND DOT ABOVEfBELOWfINSIDE CIRCLE BELOWzjEFT ARROWHEAD ABOVE
fBELOWsTTER AEbFRICAN FEHdNOONeQAFa WITH THREE DOTS ABOVEzhINa FINAL FORMkINITIAL FORMlSOLATED FORMnMEDIAL F
ORMlWITH THREE DOTS ABOVEfBELOWfPOINTING DOWNWARDS ABOVEzjWO DOTS ABOVEfVERTICALLY ABOVEziLEFa FINAL FORMkIS
OLATED FORMnMAKSURAa FINAL FORMkISOLATED FORMvWASLAa FINAL FORMkISOLATED FORMsITH ATTACHED BOTTOM RIGHT KASR
Aa AND DOT ABOVEjLEFT RINGzhFATHAfKASRAfLEFT HAMZAfROUND DOToRIGHT HAMZAfROUND DOToOUND DOT ABOVEfBELOWpTO
P RIGHT FATHAa AND DOT ABOVEjLEFT RINGznDOT ABOVEjEXTENDED ARABIC-INDIC DIGIT THREE ABOVEkWO ABOVEzmHAMZA AB
OVEa FINAL FORMkISOLATED FORMtBELOWa FINAL FORMkISOLATED FORMzLEFT MIDDLE STROKEsMADDA ABOVEa FINAL FORMkISO
LATED FORMzRIGHT MIDDLE STROKEa AND DOT ABOVEjLEFT RINGziWAVY HAMZA ABOVEfBELOWzbBEEHa FINAL FORMkINITIAL FO
RMlSOLATED FORMnMEDIAL FORMoHa FINAL FORMkINITIAL FORMlSOLATED FORMnMEDIAL FORMlWITH DOT BELOW AND THREE DOT
S ABOVEzfHAMZA ABOVElINVERTED SMALL V BELOWwSMALL MEEM ABOVEkVa BELOWnTHREE DOTS HORIZONTALLY BELOWsPOINTIN
G UPWARDS BELOWa AND TWO DOTS ABOVEzzbWO DOTS BELOW AND DOT ABOVEzjEHa FINAL FORMkINITIAL FORMlSOLATED FORMn
MEDIAL FORMrDADa FINAL FORMkINITIAL FORMlSOLATED FORMnMEDIAL FORMlWITH DOT BELOWqHALa FINAL FORMkISOLATED FO
RMrLa FINAL FORMkISOLATED FORMnWITH DOT BELOWa AND SMALL TAHxFOUR DOTS ABOVEpINVERTED SMALL V BELOWnVkRINGeT
HREE DOTS ABOVE DOWNWARDSpBELOWpWO DOTS VERTICALLY BELOW AND SMALL TAHzwDAHALa FINAL FORMkISOLATED FORMrLa F
INAL FORMkISOLATED FORMrOTLESS BEHdFEHdQAFkULa FINAL FORMkISOLATED FORMqYEHa FINAL FORMkINITIAL FORMlSOLATE
D FORMnMEDIAL FORMqEa FINAL FORMkINITIAL FORMlSOLATED FORMnMEDIAL FORMnFARSI YEHa FINAL FORMkINITIAL FORMlSO
LATED FORMnMEDIAL FORMlWITH EXTENDED ARABIC-INDIC DIGIT FOUR BELOWkTHREE ABOVEkWO ABOVEzmINVERTED VkTHREE DO
TS ABOVEpWO DOTS ABOVEzdEHa FINAL FORMkINITIAL FORMlSOLATED FORMnMEDIAL FORMlWITH DOT BELOWa AND THREE DOT
S ABOVEzbMOVED BELOWpTHREE DOTS BELOWfPOINTING UPWARDS BELOWzhWO DOTS BELOWxGAFa FINAL FORMkINITIAL FORMlSOL
ATED FORMnMEDIAL FORMlWITH INVERTED STROKEpRINGeTHREE DOTS ABOVEpWO DOTS BELOWwHAINa FINAL FORMkINITIAL FORM
lSOLATED FORMnMEDIAL FORMlWITH DOT BELOWjTHREE DOTS ABOVEzbRAFdUEHa FINAL FORMkINITIAL FORMlSOLATED FORMnMED
IAL FORMqHAHa FINAL FORMkINITIAL FORMlSOLATED FORMnMEDIAL FORMlWITH EXTENDED ARABIC-INDIC DIGIT FOUR BELOWzn
HAMZA ABOVElINVERTED SMALL V BELOWwSMALL ARABIC LETTER TAH ABOVEeND TWO DOTSmBELOWzeTHREE DOTS ABOVEfPOINTIN
G UPWARDS BELOWzhWO DOTS ABOVEfVERTICAL ABOVEzfMZAa ISOLATED FORMsEHa DOACHASHMEEa FINAL FORMkINITIAL FORMlS
OLATED FORMnMEDIAL FORMxFINAL FORMkGOALa FINAL FORMkINITIAL FORMlSOLATED FORMnMEDIAL FORMlWITH HAMZA ABOVEvI
NITIAL FORMlSOLATED FORMnMEDIAL FORMlWITH INVERTED VkYEH ABOVEa FINAL FORMkISOLATED FORMzgIGH HAMZAa ALEFeWA
WdYEHoJEEMa FINAL FORMkINITIAL FORMlSOLATED FORMnMEDIAL FORMlWITH THREE DOTS ABOVEfBELOWpWO DOTS ABOVEwHa FI
NAL FORMkISOLATED FORMrKAFa FINAL FORMkINITIAL FORMlSOLATED FORMnMEDIAL FORMlWITH DOT ABOVEfBELOWjRINGeTHRE
E DOTS BELOWpWO DOTS ABOVEvSHMIRI YEHlEHEHa FINAL FORMkINITIAL FORMlSOLATED FORMnMEDIAL FORMlWITH DOT ABOVEj
SMALL VhTHREE DOTS ABOVEfBELOWfPOINTING UPWARDS BELOWzhWO DOTS ABOVEfVERTICALLY BELOWzkHAHa FINAL FORMkINITI
AL FORMlSOLATED FORMnMEDIAL FORMpIRGHIZ OEa FINAL FORMkISOLATED FORMqYUa FINAL FORMkISOLATED FORMyLAMa FINA
L FORMkINITIAL FORMlSOLATED FORMnMEDIAL FORMlWITH BARdDOT ABOVEhUBLE BARkSMALL ARABIC LETTER TAH ABOVExVhTHR
EE DOTS ABOVEfBELOWyOW ALEFiMARKdEEMa FINAL FORMkINITIAL FORMlSOLATED FORMnMEDIAL FORMlWITH DOT ABOVEfBELOWj
THREE DOTS ABOVEzbNGa FINAL FORMkINITIAL FORMlSOLATED FORMnMEDIAL FORMmOEHa FINAL FORMkINITIAL FORMlSOLATE
D FORMnMEDIAL FORMqOONa FINAL FORMkGHUNNAa FINAL FORMkISOLATED FORMuINITIAL FORMlSOLATED FORMnMEDIAL FORMlWI
TH DOT BELOWjINVERTED SMALL VqRINGeSMALL TAHdVhTHREE DOTS ABOVEpWO DOTS BELOWxYEHa FINAL FORMkINITIAL FORMlS
OLATED FORMnMEDIAL FORMqOEa FINAL FORMkISOLATED FORMqPEHa FINAL FORMkINITIAL FORMlSOLATED FORMnMEDIAL FORMlW
ITH SMALL MEEM ABOVEkVnEHa FINAL FORMkINITIAL FORMlSOLATED FORMnMEDIAL FORMrQAFa FINAL FORMkINITIAL FORMlSOL
ATED FORMnMEDIAL FORMlWITH DOT ABOVEfBELOWa AND NO DOTS ABOVEzcTHREE DOTS ABOVEzREHa FINAL FORMkISOLATED FOR
MnWITH DOT BELOWa AND DOT ABOVExFOUR DOTS ABOVEpHAMZA ABOVElINVERTED VkLOOPeRINGeSMALL ARABIC LETTER TAH AN
D TWO DOTSzfNOON ABOVEkVa BELOWmTROKEgTWO DOTS ABOVEfVERTICALLY ABOVEziNOONa FINAL FORMkINITIAL FORMlSOLATE
D FORMnMEDIAL FORMqOHINGYA YEHlREHa FINAL FORMkISOLATED FORMsSADa FINAL FORMkINITIAL FORMlSOLATED FORMnMEDIA
L FORMlWITH THREE DOTS ABOVEfBELOWpWO DOTS BELOWwEENa FINAL FORMkINITIAL FORMlSOLATED FORMnMEDIAL FORMlWIT
H DOT BELOW AND DOT ABOVExEXTENDED ARABIC-INDIC DIGIT FOUR ABOVEznFOUR DOTS ABOVEpINVERTED VkSMALL ARABIC LE
TTER TAH AND TWO DOTSzlTHREE DOTS BELOWa AND THREE DOTS ABOVEzlWO DOTS VERTICALLY ABOVEzjHEENa FINAL FORMkIN
ITIAL FORMlSOLATED FORMnMEDIAL FORMlWITH DOT BELOWtTRAIGHT WAWlUPERSCRIPT ALEFpWASH KAFjTAHa FINAL FORMkINIT
IAL FORMlSOLATED FORMnMEDIAL FORMlWITH DOT BELOWjTHREE DOTS ABOVEfBELOWpWO DOTS ABOVEwCHEHa FINAL FORMkINITI
AL FORMlSOLATED FORMnMEDIAL FORMlWITH DOT ABOVEjSMALL VnEHa FINAL FORMkINITIAL FORMlSOLATED FORMnMEDIAL FORM
sEHa FINAL FORMkINITIAL FORMlSOLATED FORMnMARBUTAa FINAL FORMkGOALeISOLATED FORMuEDIAL FORMlWITH RINGeSMAL
L TEH ABOVEjVhTHREE DOTS ABOVE DOWNWARDSzhEHa FINAL FORMkINITIAL FORMlSOLATED FORMnMEDIAL FORMqHALa FINAL FO
RMkISOLATED FORMqEHa FINAL FORMkINITIAL FORMlSOLATED FORMnMEDIAL FORMoIN YEHhTEHa FINAL FORMkINITIAL FORMlSO
LATED FORMnMEDIAL FORMlWITH SMALL VnEHa FINAL FORMkINITIAL FORMlSOLATED FORMnMEDIAL FORMsUa FINAL FORMkISOLA
TED FORMnWITH HAMZA ABOVEa ISOLATED FORMzgIGHUR KAZAKH KIRGHIZ ALEF MAKSURA INITIAL FORMmMEDIAL FORMzvVEa FI
NAL FORMkISOLATED FORMoHa FINAL FORMkINITIAL FORMlSOLATED FORMnMEDIAL FORMpWAWa FINAL FORMkISOLATED FORMnWIT
H DOT ABOVEfWITHINkEXTENDED ARABIC-INDIC DIGIT THREE ABOVEkWO ABOVEzmHAMZA ABOVEa FINAL FORMkISOLATED FORMzR
INGeTWO DOTS ABOVExYEHa BARREEa FINAL FORMkISOLATED FORMnWITH EXTENDED ARABIC-INDIC DIGIT THREE ABOVEkWO ABO
VEzmHAMZA ABOVEa FINAL FORMkISOLATED FORMzmFINAL FORMkINITIAL FORMlSOLATED FORMnMEDIAL FORMlWITH HAMZA ABOVE
a FINAL FORMkINITIAL FORMlSOLATED FORMnMEDIAL FORMxSMALL VhTAILdHREE DOTS BELOWpWO DOTS BELOW AND DOT ABOVEj
HAMZA ABOVElSMALL NOON ABOVEzsUa FINAL FORMkISOLATED FORMqZAHa FINAL FORMkINITIAL FORMlSOLATED FORMnMEDIAL F
ORMnINa FINAL FORMkISOLATED FORMnWITH INVERTED V ABOVEzhIGATURE AIN WITH ALEF MAKSURA FINAL FORMkISOLATED FO
RMzbJEEM INITIAL FORMlSOLATED FORMnWITH MEEM FINAL FORMkINITIAL FORMzcMEEM INITIAL FORMlSOLATED FORMnWITH AL
EF MAKSURA FINAL FORMxMEEM FINAL FORMkINITIAL FORMrYEH FINAL FORMyYEH FINAL FORMkISOLATED FORMzKBAR ISOLATE
D FORMsLAYHAA AS-SALAAMmE ISOLATED FORMpI AS-SALAAMbTU WAS-SALAAMwM AS-SALAAMkAA AS-SALAAMrEF MAKSURA WITH S
UPERSCRIPT ALEF FINAL FORMkISOLATED FORMzsWITH FATHATAN FINAL FORMkISOLATED FORMzfLAH ISOLATED FORMsZZA WA J
ALLmBEH WITH ALEF MAKSURA FINAL FORMkISOLATED FORMzbHAH INITIAL FORMlSOLATED FORMnWITH YEH FINAL FORMwEH INI
TIAL FORMmMEDIAL FORMpJEEM INITIAL FORMlSOLATED FORMsKHAH INITIAL FORMlSOLATED FORMnWITH YEH FINAL FORMyMEE
M FINAL FORMkINITIAL FORMlSOLATED FORMnMEDIAL FORMqNOON FINAL FORMpREH FINAL FORMoYEH FINAL FORMkISOLATED FO
RMrZAIN FINAL FORMxISMILLAH AR-RAHMAN AR-RAHEEMzeDAD WITH ALEF MAKSURA FINAL FORMkISOLATED FORMzbHAH INITIA
L FORMlSOLATED FORMnWITH ALEF MAKSURA FINAL FORMxYEH FINAL FORMxJEEM INITIAL FORMlSOLATED FORMsKHAH INITIA
L FORMlSOLATED FORMnWITH MEEM FINAL FORMkINITIAL FORMzcMEEM INITIAL FORMlSOLATED FORMsREH FINAL FORMkISOLATE
D FORMrYEH FINAL FORMkISOLATED FORMzbFEH WITH ALEF MAKSURA FINAL FORMkISOLATED FORMzbHAH INITIAL FORMlSOLATE
D FORMrJEEM INITIAL FORMlSOLATED FORMsKHAH INITIAL FORMlSOLATED FORMnWITH MEEM FINAL FORMkINITIAL FORMzcMEE
M INITIAL FORMlSOLATED FORMnWITH YEH FINAL FORMyYEH FINAL FORMkISOLATED FORMzbGHAIN WITH ALEF MAKSURA FINA
L FORMkISOLATED FORMzbJEEM INITIAL FORMlSOLATED FORMsMEEM INITIAL FORMlSOLATED FORMnWITH ALEF MAKSURA FINA
L FORMxMEEM FINAL FORMpYEH FINAL FORMyYEH FINAL FORMkISOLATED FORMzdHAH WITH ALEF MAKSURA FINAL FORMkISOLATE
D FORMzbJEEM INITIAL FORMlSOLATED FORMnWITH YEH FINAL FORMyMEEM INITIAL FORMlSOLATED FORMnWITH ALEF MAKSUR
A FINAL FORMxYEH FINAL FORMyYEH FINAL FORMkISOLATED FORMzEH WITH ALEF MAKSURA ISOLATED FORMzbJEEM INITIAL FO
RMlSOLATED FORMsMEEM INITIAL FORMlSOLATED FORMnWITH JEEM INITIAL FORMrMEEM INITIAL FORMzcSUPERSCRIPT ALEF IN
ITIAL FORMzeYEH ISOLATED FORMzbJALLAJALALOUHOUoEEM WITH ALEF MAKSURA FINAL FORMkISOLATED FORMzbHAH INITIAL F
ORMlSOLATED FORMnWITH ALEF MAKSURA FINAL FORMxYEH FINAL FORMxMEEM INITIAL FORMlSOLATED FORMnWITH ALEF MAKSUR
A FINAL FORMxHAH FINAL FORMkINITIAL FORMqYEH FINAL FORMyYEH FINAL FORMkISOLATED FORMzcKAF WITH ALEF FINAL FO
RMkISOLATED FORMnMAKSURA FINAL FORMkISOLATED FORMzbHAH INITIAL FORMlSOLATED FORMrJEEM INITIAL FORMlSOLATED F
ORMsKHAH INITIAL FORMlSOLATED FORMsLAM FINAL FORMkINITIAL FORMlSOLATED FORMnMEDIAL FORMpMEEM FINAL FORMkINIT
IAL FORMlSOLATED FORMnMEDIAL FORMlWITH MEEM FINAL FORMkINITIAL FORMrYEH FINAL FORMyYEH FINAL FORMkISOLATED F
ORMzHAH WITH ALEF MAKSURA FINAL FORMkISOLATED FORMzbHAH ISOLATED FORMrJEEM INITIAL FORMlSOLATED FORMsMEEM IN
ITIAL FORMlSOLATED FORMsYEH FINAL FORMkISOLATED FORMzcLAM WITH ALEF FINAL FORMkISOLATED FORMnMAKSURA FINAL F
ORMkISOLATED FORMvWITH HAMZA ABOVE FINAL FORMkISOLATED FORMtBELOW FINAL FORMkISOLATED FORMzMADDA ABOVE FINA
L FORMkISOLATED FORMzkHAH INITIAL FORMlSOLATED FORMnWITH ALEF MAKSURA FINAL FORMxMEEM FINAL FORMkINITIAL FOR
MrYEH FINAL FORMwEH INITIAL FORMqJEEM INITIAL FORMlSOLATED FORMnWITH JEEM FINAL FORMkINITIAL FORMrMEEM FINA
L FORMkINITIAL FORMrYEH FINAL FORMyKHAH INITIAL FORMlSOLATED FORMnWITH MEEM FINAL FORMkINITIAL FORMzcMEEM FI
NAL FORMkINITIAL FORMlSOLATED FORMnMEDIAL FORMlWITH HAH FINAL FORMkINITIAL FORMqYEH FINAL FORMyYEH FINAL FOR
MkISOLATED FORMzbMEEM WITH ALEF FINAL FORMkMAKSURA ISOLATED FORMzbHAH INITIAL FORMlSOLATED FORMnWITH JEEM IN
ITIAL FORMrMEEM INITIAL FORMrYEH FINAL FORMxJEEM INITIAL FORMlSOLATED FORMnWITH HAH INITIAL FORMqKHAH INITIA
L FORMrMEEM INITIAL FORMrYEH FINAL FORMyKHAH INITIAL FORMlSOLATED FORMnWITH JEEM INITIAL FORMrMEEM INITIAL F
ORMrYEH FINAL FORMyMEEM FINAL FORMkINITIAL FORMlSOLATED FORMnWITH YEH FINAL FORMyYEH ISOLATED FORMzbOHAMMA
D ISOLATED FORMwNOON WITH ALEF MAKSURA FINAL FORMkISOLATED FORMzbHAH INITIAL FORMlSOLATED FORMnWITH ALEF MAK
SURA FINAL FORMxMEEM INITIAL FORMrYEH FINAL FORMwEH INITIAL FORMmMEDIAL FORMpJEEM INITIAL FORMlSOLATED FORMn
WITH ALEF MAKSURA FINAL FORMxHAH FINAL FORMkINITIAL FORMqMEEM FINAL FORMkINITIAL FORMrYEH FINAL FORMyKHAH IN
ITIAL FORMlSOLATED FORMsMEEM FINAL FORMkINITIAL FORMlSOLATED FORMnMEDIAL FORMlWITH ALEF MAKSURA FINAL FORMxY
EH FINAL FORMyNOON FINAL FORMpREH FINAL FORMoYEH FINAL FORMkISOLATED FORMrZAIN FINAL FORMzQAF WITH ALEF MAKS
URA FINAL FORMkISOLATED FORMzbHAH INITIAL FORMlSOLATED FORMrMEEM INITIAL FORMlSOLATED FORMnWITH HAH FINAL FO
RMkINITIAL FORMqMEEM FINAL FORMpYEH FINAL FORMyYEH FINAL FORMkISOLATED FORMyLA USED AS KORANIC STOP SIGN ISO
LATED FORMzsUDDISA SIRRAHoRADI ALLAAHU ANHaAAcUMaAAdNNAsHIMAHU ALLAAHhM ALLAAHoSOUL ISOLATED FORMtEH WITH SU
PERSCRIPT ALEF ISOLATED FORMzoSAD WITH ALEF MAKSURA FINAL FORMkISOLATED FORMzbHAH INITIAL FORMlSOLATED FORMn
WITH HAH FINAL FORMkINITIAL FORMqYEH FINAL FORMxKHAH INITIAL FORMrMEEM INITIAL FORMlSOLATED FORMnWITH MEEM F
INAL FORMkINITIAL FORMzcREH FINAL FORMkISOLATED FORMrYEH FINAL FORMkISOLATED FORMyLAAMUHU ALAYNAAnM ISOLATE
D FORMqLA ISOLATED FORMnUSED AS KORANIC STOP SIGN ISOLATED FORMzpLLAAHU ALAYHI WA-AALIHtHOU ALAYHE WASALLAMs
U ALAYHI WAAALIHEE WA-SALLAMzlEEN WITH ALEF MAKSURA FINAL FORMkISOLATED FORMzbHAH INITIAL FORMlSOLATED FORMn
MEDIAL FORMlWITH JEEM INITIAL FORMzEH INITIAL FORMmMEDIAL FORMpJEEM INITIAL FORMlSOLATED FORMnMEDIAL FORMlWI
TH ALEF MAKSURA FINAL FORMxHAH INITIAL FORMzbKHAH INITIAL FORMlSOLATED FORMnMEDIAL FORMlWITH ALEF MAKSURA FI
NAL FORMxYEH FINAL FORMyMEEM INITIAL FORMlSOLATED FORMnMEDIAL FORMlWITH HAH FINAL FORMkINITIAL FORMqJEEM INI
TIAL FORMrMEEM FINAL FORMkINITIAL FORMzcREH FINAL FORMkISOLATED FORMrYEH FINAL FORMkISOLATED FORMzbHADDA WIT
H DAMMA ISOLATED FORMnMEDIAL FORMmTAN ISOLATED FORMwFATHA ISOLATED FORMnMEDIAL FORMrKASRA ISOLATED FORMnMEDI
AL FORMmTAN ISOLATED FORMwSUPERSCRIPT ALEF ISOLATED FORMzpEEN WITH ALEF MAKSURA FINAL FORMkISOLATED FORMzbHA
H FINAL FORMkINITIAL FORMlSOLATED FORMnMEDIAL FORMlWITH MEEM FINAL FORMkINITIAL FORMrYEH FINAL FORMwEH INITI
AL FORMmMEDIAL FORMpJEEM FINAL FORMkINITIAL FORMlSOLATED FORMnMEDIAL FORMlWITH YEH FINAL FORMyKHAH FINAL FOR
MkINITIAL FORMlSOLATED FORMnMEDIAL FORMqMEEM FINAL FORMkINITIAL FORMlSOLATED FORMnMEDIAL FORMlWITH KHAH FINA
L FORMkINITIAL FORMrMEEM FINAL FORMkINITIAL FORMzcREH FINAL FORMkISOLATED FORMrYEH FINAL FORMkISOLATED FORMz
cUBHAANAHU WA TAAALAAvTABAARAKA WA-TAAALAAsH WITH ALEF MAKSURA FINAL FORMkISOLATED FORMzbHAH INITIAL FORMlSO
LATED FORMrMEEM INITIAL FORMlSOLATED FORMnMEDIAL FORMlWITH HAH FINAL FORMkINITIAL FORMqMEEM INITIAL FORMrYE
H FINAL FORMyYEH FINAL FORMkISOLATED FORMzEH WITH ALEF MAKSURA FINAL FORMkISOLATED FORMzbHAH INITIAL FORMlSO
LATED FORMnWITH JEEM FINAL FORMkINITIAL FORMrMEEM INITIAL FORMzEH INITIAL FORMmMEDIAL FORMpJEEM INITIAL FORM
lSOLATED FORMnWITH ALEF MAKSURA FINAL FORMxMEEM INITIAL FORMrYEH FINAL FORMyKHAH INITIAL FORMlSOLATED FORMnW
ITH ALEF MAKSURA FINAL FORMxMEEM INITIAL FORMrYEH FINAL FORMyMEEM FINAL FORMkINITIAL FORMlSOLATED FORMnMEDIA
L FORMlWITH ALEF MAKSURA FINAL FORMxHAH INITIAL FORMqJEEM INITIAL FORMrKHAH INITIAL FORMrYEH FINAL FORMyNOO
N FINAL FORMpREH FINAL FORMoYEH FINAL FORMkISOLATED FORMrZAIN FINAL FORMxHAL WITH SUPERSCRIPT ALEF ISOLATE
D FORMznEH WITH ALEF MAKSURA FINAL FORMkISOLATED FORMzbHEH MEDIAL FORMpJEEM ISOLATED FORMsMEEM FINAL FORMkIN
ITIAL FORMlSOLATED FORMnMEDIAL FORMqNOON FINAL FORMpREH FINAL FORMoYEH FINAL FORMkISOLATED FORMrZAIN FINAL F
ORMzUIGHUR KIRGHIZ YEH WITH HAMZA ABOVE WITH ALEF MAKSURA FINAL FORMkINITIAL FORMlSOLATED FORMzzrWASALLAM IS
OLATED FORMwYEH WITH ALEF MAKSURA FINAL FORMkISOLATED FORMzbHAH INITIAL FORMlSOLATED FORMnWITH YEH FINAL FOR
MvMZA ABOVE WITH AE FINAL FORMkISOLATED FORMpLEF FINAL FORMkISOLATED FORMnMAKSURA FINAL FORMkISOLATED FORMzb
E FINAL FORMkINITIAL FORMlSOLATED FORMpHAH INITIAL FORMlSOLATED FORMqEH INITIAL FORMmMEDIAL FORMpJEEM INITIA
L FORMlSOLATED FORMsKHAH INITIAL FORMrMEEM FINAL FORMkINITIAL FORMlSOLATED FORMnMEDIAL FORMqNOON FINAL FORMp
OE FINAL FORMkISOLATED FORMqREH FINAL FORMoU FINAL FORMkISOLATED FORMpWAW FINAL FORMkISOLATED FORMrYEH FINA
L FORMkISOLATED FORMqU FINAL FORMkISOLATED FORMqZAIN FINAL FORMzgEH INITIAL FORMmMEDIAL FORMpJEEM INITIAL FO
RMlSOLATED FORMnWITH YEH FINAL FORMyKHAH INITIAL FORMlSOLATED FORMsMEEM FINAL FORMkINITIAL FORMlSOLATED FORM
nMEDIAL FORMlWITH MEEM FINAL FORMkINITIAL FORMrYEH FINAL FORMyNOON FINAL FORMpREH FINAL FORMoYEH FINAL FORMk
ISOLATED FORMrZAIN FINAL FORMyZAH WITH MEEM INITIAL FORMlSOLATED FORMnMEDIAL FORMzjMADDA WAAJIBhH ABOVEkRK N
OON GHUNNAlSIDEWAYS NOON GHUNNAxTHEMATICAL AINcLEFeBEHdDADbLcOTLESS BEHdFEHdNOONeQAFjUBLE-STRUCK AINdBEHdDAD
bLdFEHdGHAINfHAHdJEEMeKHAHeLAMdMEEMeNOONeQAFdREHdSADcEENdHEENfTAHcEHcHALcEHeWAWdYEHdZAHbINsFEHdGHAINfHAHdINI
TIAL AINdBEHdDADdFEHdGHAINfHAHcEHdJEEMeKAFcHAHeLAMdMEEMeNOONeQAFdSADcEENdHEENfTEHcHEHeYEHlJEEMeKAFcHAHeLAMcO
OPED AINcLEFeBEHdDADbLdFEHdGHAINfHAHcEHdJEEMeKHAHeLAMdMEEMeNOONeQAFdREHdSADcEENdHEENfTAHcEHcHALcEHeWAWdYEHdZ
AHbINlMEEMeNOONeOPERATOR HAH WITH DALmMEEM WITH HAH WITH TATWEELzkQAFdREHdSADcEENdHEENeTRETCHED AINdBEHdDADc
OTLESS BEHdFEHlFEHdGHAINfHAHcEHdJEEMeKAFcHAHeMEEMeNOONeQAFdSADcEENdHEENfTAHcEHcHEHeYEHdZAHnTAHbILED AINdDADc
OTLESS NOONeQAFlGHAINfHAHdJEEMeKHAHeLAMdNOONeQAFdSADcEENdHEENfYEHjEHcHALcEHeWAWdYEHdZAHbINrNUMBER MARK ABOVE
kSIGNlOPEN DAMMATANiFATHATANiKASRATANnPERCENT SIGNlIASTRE MARK ABOVErLACE OF SAJDAHoOETIC VERSE SIGNpUND MAR
K ABOVEqQUESTION MARKnRAISED ROUND DOToYcEVERSED DAMMAnIGHT ARROWHEAD ABOVEa WITH DOToBELOWuOUNDED HIGH STO
P WITH FILLED CENTREzlSEMICOLONiHADDAa ISOLATED FORMnMEDIAL FORMrIGN ALAYHE ASSALLAMpMISRAfRADI ALLAHOU ANHU
pHMATULLAH ALAYHEsSAFHAdLLALLAHOU ALAYHE WASSALLAMzbMVATeNAHeINDHI AMPERSANDjPOSTPOSITION MENxTAKHALLUSnMAL
L DAMMAfFARSI YEHhTHAfHIGH AINdDOTLESS HEAD OF KHAHuFARSI YEHiOOTNOTE MARKERpJEEMeLAM ALEFhIGATURE ALEF WIT
H LAM WITH YEHwQAF WITH LAM WITH ALEF MAKSURAzfSAD WITH LAM WITH ALEF MAKSURAzoMADDAeEEM INITIAL FORMlSOLATE
D FORMsNOONa WITH KASRApQAFdROUNDED ZEROmSADcEENdIGN SAFHAkTAHcHREE DOTSkUPRIGHT RECTANGULAR ZEROyWAWcORD AL
-JUZfN-NISFgR-RUBfS-SAJDAhTH-THALATHAmQIFdSAHbKTAfWAQFAkYEHa BARREE WITH TWO DOTS BELOWzfZAHbINjKASRAfLOW ME
EMeNOON WITH KASRApSEENeWAWcORD IMAALAfSHMAAMhTASHEELqWAWdYEHiTART OF RUB EL HIZBtUBSCRIPT ALEFmKUNa BELOWfI
SOLATED FORMnMEDIAL FORMpPERSCRIPT ALEF MOKHASSASzYMBOL DOT ABOVEfBELOWhUBLE VERTICAL BAR BELOWzFOUR DOTS AB
OVEfBELOWpRINGeSMALL TAH ABOVEfBELOWpTHREE DOTS ABOVEfBELOWfPOINTING DOWNWARDS ABOVEfBELOWzjWO DOTS ABOVEfBE
LOWfVERTICALLY ABOVEfBELOWzWASLA ABOVEsTAIL FRAGMENTlTWEELa WITH FATHATAN ABOVEoOVERSTRUCK HAMZAfWAWoTWO DOT
S BELOWzbHOUSANDS SEPARATORsONE LOOP ABOVEfBELOWkONE DOT ABOVEfBELOWnTWO DOTS ABOVEfBELOWsRIPLE DOT PUNCTUAT
ION MARKzbURNED DAMMA BELOWsVERTICAL TAILmOWEL SIGN DOT BELOWjINVERTED SMALL V ABOVEwSMALL V ABOVEyWAVY HAMZ
A BELOWqZWARAKAYj-INDIC CUBE ROOTjDIGIT EIGHTfFIVEdOUReNINEeONEdSEVENeIXdTHREEeWOdZEROkFOURTH ROOTlPER MILL
E SIGNkTEN THOUSAND SIGNzhCbIESdMENIAN ABBREVIATION MARKqPOSTROPHEkCAPITAL LETTER AYBdBENdCAbHAbEHdOcDAcECHc
HbTcFEHdGHADdIMdHOcINIdJAbHEHeKEHbNdLIWNeMENdNOWdOHcPEHcIWReRAbEHdSEHcHAdTIWNdOcVEWcOcXEHdYIaWNeZAbHErOMMAfD
RAM SIGNjEMPHASIS MARKmXCLAMATION MARKqFULL STOPjHYPHENgMODIFIER LETTER LEFT HALF RINGzfQUESTION MARKnSMAL
L LETTER AYBdBENdCAbHAbEHdOcDAcECHcHbTcFEHdGHADdIMdHOcINIdJAbHEHeKEHbNdLIWNeMENdNOWdOHcPEHcIWReRAbEHdSEHcHAd
TIWNdObURNED AYBkVEWcOcXEHdYIa WITH STROKEmWNeZAbHEjIGATURE ECH YIWNiMEN ECHdINIdNOWdXEHhVEW NOWzeROW POINTI
NG DOWNWARDS THEN CURVING LEFTWARDSjRIGHTWARDSziRIGHTWARDS THEN CURVING DOWNWARDSjSOUTH WESTkUPWARDSzgUPWARD
S THEN NORTH WESTziHEAD-SHAPED POINTERwTICULATED LORRYnST PALETTEnSCENDING NODElIA SYMBOLkSERTIONhTERISKa OP
ERATORkMfONISHED FACEmRAEAdONOMICAL SYMBOL FOR URANUSzdYMPTOTICALLY EQUAL TOwTHLETIC SHOElOM SYMBOLkUBERGINE
hSTRAL SIGNkTO RICKSHAWjMATED TELLER MACHINEtOBILEjVESTAN ABBREVIATION MARKrLETTER AaAaNbOcEaEcNbOcBEbHEdCEc
DEbHEdEaEcFEcGEbGEcHEdHEbMEdIaIcJEcKEcLEcMEcNEbGEbVEcYEdNEcYEdOaOcPEcREcSEbHEbYEdSHEeTEbHEcTEdUaUcVEcXEbVEcY
EdYEbYEdZEbHEqOCADOgXE"

/-- The names that start with B. -/
def namesB : String := "aBABYa ANGELfBOTTLEgCHICKfSYMBOLjCK OF ENVELOPElWITH LEFTWARDS ARROW ABOVEzc-TILTED SHADOWED WHITE RIGHTWARD
S ARROWzoSLANTED SOUTH ARROW WITH HOOKED TAILjRIZONTAL TAILzoPACEgONcTRIAN CAMELmDGERdMINTON RACQUET AND SHU
TTLECOCKzgGELcGAGE CLAIMkUETTE BREADmLINESE ADEG ADEGjCARIK PAMUNGKAHhRERENhSIKIkDIGIT EIGHTfFIVEdOUReNINEeO
NEdSEVENeIXdTHREEeWOdZEROkLETTER AIKARAfKARAa TEDUNGlRCHAIC JNYAlSYURA SASAKmBAa KEMBANGkCAa LACAhDAa MADUdU
RDA ALPAPRANAjMAHAPRANAsEF SASAKhKARAfGAa GORAhHAcIKARAa TEDUNGmJAa JERAhKAa MAHAPRANAkF SASAKiHOT SASAKkLA
a LENGAa TEDUNGpMAcNAa RAMBATiGAcYAdOKARAa TEDUNGmPAa KAPALiRAa REPAa TEDUNGoSAa SAGAcPAhTAa LATIKfMURDA MAH
APRANApTAWAgZIR SASAKkUKARAa TEDUNGmVE SASAKiWAcYAcZAL SASAKqMUSICAL SYMBOL COMBINING BENDEfENDEPfGONGeJEGOG
ANhKEMPLIa WITH JEGOGANpULa WITH JEGOGANtTEGEHpDAENGdINGdNGa GEDEeSURANGkENGcUNGeINGdONGdUNGeLEFT-HAND CLOSE
D PLAKcUKlOPEN PANGdINGdUNGtRIGHT-HAND CLOSED TAKcUKkOPEN DAGcUGzjPAMADAa LANTANGlENENGgNTIa LANTANGnSIGN BI
SAHfCECEKfREREKANhSURANGgULU CANDRAgRICEMoVOWEL SIGN LA LENGAa TEDUNGpPEPETa TEDUNGmRA REPAa TEDUNGoSUKUa IL
UTjTALINGa REPAa TEDUNGlTEDUNGmEDUNGgULUa SARItWINDUlL OF YARNiET SHOESiOONa-SPOKED ASTERISKsT BOLD SCRIPT X
lXa WITH BALLOTfOLD CHECKfSCRIPT XnCHECKfLIGHT XhSCRIPT XiXkSCRIPT XiXgMUM COLONdMBINING MARK KOQNDONhTUKWEN
TISvMAfFULL STOPjLETTER AbEEcFAAMAEfEEcOMcUcIbKAbENbTbUXdIbOaGHOMeVUUePAcUbYEEeLAbEEEEeIbOQcUcMaAbBAAcENdEEE
EdNcIbObUcNAbDAAdGAbGAcKWAENgIbJAEMdEEcUAEeSHAdTEEcUUdUaAEdYIdObPAbEEbUXdHASE-A FIRIeGBIEE FONiHEUAEGHEUAEgR
AEjKAFAcQcETbUKEUTNDAjPOQdUOQeLAPAQeET KUTgOMMAEfUaAEPfMAEKEUPeMaBGBIEEgKPENeVEUXfNYIdSIdNSUAEfP PIEETiBANYI
dQdEUNJOMNDEUQlGBASAfON NGGEUAETkOMEUTdPUQgVEUAENGAMkNAA MFONgQcDA LEERAEWAjANGGEUAETlENcGANGUeGENdKUE MFONf
NZEUMjIKAdJAMdKAARAEfINDIfSHAbIEEfTAPa MFAAeNTAAhOQPENgYETcIaT MONGKEUAEQoZA MFONgUN MEUTjPA LEERAEWAjAMbRAE
eMSHAEfSHAEfETcON MFON PIPAEMBAcGBIEEqPA NJI PIPAEMBAcGBIEEvUPdROMdSEUNYAMgHINDA PA NJIkRAEeOQ NSHUT YUMmUEN
SHUEThMdISAdONJAMeQbTcUUdTEUAENdTEUWENiITA MFONiU MAEMBAhAEPfU YUQ NAEiNKNOWNhVEEfB FEEbUXeGHEUGHENbUAEMlKAM
cEUAEMdPUQdYEUXgIEEMdQdLAANAEeM NSHUT NYAMnETcOM NTEUMjMAa NJEUAENAgUQAhBA MAELEEhARAEfEURIeIT MBAAKETkUOQeE
UQbT NGGEETkFIYAQeON TEUAEQkONTIEENiNDU NJAAhGGAAMdEU MBUgUOQa LARGEkKINDI MVOPkOMdSENcHUETfTIEE SHEUOQlYAEM
AEfI NTEUMjPARUMeEESHIfITcUNGAAMhSAKEUAEgET TUfHET NJAQgUAEQTUiIEEdUEdTAAMdU MAEMGBIEEjNSIEEiVEUMeWUAETfYAF
U LEERAEWAmEURAEiC BUNGeFUEdGBAYIeHAPbRAEgKAAcEN FATIGUEhLAWfTbUKAQdMbSEUXdHEUAEPjPARAQfUOP NKAARAEkTdLAMbPc
IQcUcMA KEUAERIhNSIEEgEMBAdSIeBAA CABBAGE-TREEmPICKETiNYIeEEKEETfRAEdUMbXdIaRIEENfTcUAEMdEdGBASAQgIEEdUAEeNA
NSANAQgQcDAMbPcEUAEREEfTdIDAdOMBUfGAQcGENcUaAEN NYAMiEETdMbONeKAQcUE MAEMBAkOMdJAEMcMcEEEEdUXdUEQeSAbEUAENfH
AQdOMcUNbOT NGOMjTAAcENbUNGBAgU MBIThYIR MKPARAQ MEUNqZAbEUMfPENcINbRIEENhRUcSETFONeUXdHIQcUEQeUAETfTAASHAEg
ETbUTEUXgITA YUEfUAEPhVEUAEPENfXeWANGKUOQhUPdYAAcEUQdU MUOMAEhMbWOQhD FAAcEUFEUAETjGHAAcEUAEgKETbUAETMEUNhMb
OT MBUAEiPdUaNbOMcQcWAETeYEEeLEEEEdTbUAEPdMdIEEdOQcUMdMaAENJETfLEERIgBAAa SEVENiUOdEEEEdUNbTdFEUAEcTdIEEdOaN
dGBEUNdIEEdOFUMgONIdUbVOPeNDAMcEEbUXdONdGGAAMaAEePcEUXdUOMdWAENfKAPcEUAEQdRIeIEEdUNcYEEfIbJAPcEUAEMdTdIaEEdU
EQeSHEEcUTdIEEPbTeUMdTEEbUMdUUdUbYAMcETcIbUEePAPcEEbUTAEfIPcUQbUTeRAEMdEN MUCHeOLDgIIdSAPbQcEUAEQfHEEbUAEcXd
IIcOQcUcOTcUAEcEbUdTAEcEEEEdUAENdNbTdIbOQcUaOTeWAPcUAENfYAEMMAEgENcUOMbPcWOQhE AbFAaQcEEcOMcU CALLeIbREMEDYh
EaTeGBETbUXeHAAMAEfETbUAEcNbXdOMeIbKETbUAEcXdIbObPEUXeUETcOPcTdLAAMcPbQcEUAEMfOMbONbTcQcUcMAaEaMcPbQcBEEbUMe
ENcFEUQeGBAbENeIaEEdONcUAEdVIdNAaEcDAA MY HOUSEiSOFTNESSkPcIAQcQcUNdGAbEUREUTgGEEEEdUAEaTfUAESHAE NYAMlPbRAE
fKAaAMIeEUAEMdXdUMbPdOPbQcUAEaTfJAEMLIfEEa EPOCHhUXeKOMdSHIEEdUEbOPfTAPcUMdYI BETWEENhCLEAVERkZAQcUQeObPA PE
OPLEfLURALhAaMdEEMcUTbXdIaEEQcTdOaONdUaAEbQcEbMdRAEbQcEUXdIMGBAgSAAcEEbTcHEUAEQfIQcOaQdOMcUAENfTAAaQcEN NTEU
MiMbQcENbUaAEQfOOaNcQcUAEcMaAEfVEEbUAEeOMdWEUXdUEbOdYAPcEUAEaTdMbXdIEEcTcOQ COVERfSWIMMINGlUAENdEQcNbQfF EEc
FOMdKAbENbTcObPAcUbYEEeLAbIbOQdMaAbBAAcENdEEEEeOcNDAAdGGAcKWAENgIbJAEMdUAEeSHAdTEEdUaAEdYIdPEEbUXdUAEeREEbNb
UXdIEEcIcUcSAMBAeEUXdHIIcObUcIbUUdTAAbEcETdUbVUEQeWAbUEdYAbOQkIbUAEcEdRAEcEEbNbUXdIEEcIcUcSAMBAeEUXdHEUXdIIc
ObUcIbUUdTAAbEcENbTcIcUbWAbUEdYAbOQcUQkNJAEMLIhQUESTION MARKnSEMICOLONnNANAdJOcKaNOTE WITH DOLLAR SIGNlEUR
O SIGNjPOUND SIGNkYEN SIGNuR CHARTfOF SOAPiBER POLEjSEBALLfKETaBALL AND HOOPqSA VAH COMBINING HIGH TONEf-LO
W TONEnLOW TONEf-MID TONEmMID TONEsFULL STOPjLETTER AbBAcCEcDHIIdOcEaEbNNIeFAcGAHcBUdHWAHeIbJOcKAbPAHeMBEdOa
OcPAcSEcTOcUaWUdVUcWAaDDAfYEINdIEdZOrTaAK CONSONANT SIGN HbNGrLETTER AbBAcCAcDAcGAcHAcIbJAcKARO BAhLAcMAaNDA
ILING HAcNAcSAmBAdNAbDAcGAcORTHERN TAkYAdPAaKPAK WAjRAcSAbIMALUNGUN AbGAcHAcLAcMAcPAcRAcSAcWAcYAmOUTHERN TAl
UbWAcYAjPANGOLATfONGONANkSIGN TOMPIjYMBOL BINDU JUDULfNA METEKiPANGOLAThINARBORASxVOWEL SIGN EaEcIbKARO IbOg
ObPAKPAK EiUa FOR SIMALUNGUN SAziHaTUBeTERYgEACH WITH UMBRELLAqMED ASCENDING MUSICAL NOTESxDESCENDING MUSICA
L NOTESyEIGHTH NOTESmSIXTEENTH NOTEStNScR FACEfDED PERSONlTING HEARTkVEReCAUSEfDbER MUGfTLEeLaLa PEPPERgSYMB
OLgWITH CANCELLATION STROKEzHOP BELLkNGALI ABBREVIATION SIGNqNJIdU LENGTH MARKoCURRENCY DENOMINATOR SIXTEENt
NUMERATOR FOUReONEa LESS THAN THE DENOMINATORzeTHREEeWOwDIGIT EIGHTfFIVEdOUReNINEeONEdSEVENeIXdTHREEeWOdZERO
kGANDA MARKkISSHARgLETTER AaAbIbUcBAbHAdCAbHAdDAbDAbHAdHAdEbGAbHAdHAcIaIcJAbHAdKAbHAaNDA TAjLAcMAcNAbGAcNAcY
AdObPAbHAdRAa WITH LOWER DIAGONALoMIDDLE DIAGONALwHAcRAdSAbHAcSAdTAbHAcTAbHAeUaUcVEDIC ANUSVARAnOCALIC LaLcR
aRkYAbYAkRUPEE MARKeSIGNkSANDHI MARKkIGN ANUSVARAhVAGRAHAiCANDRABINDUlNUKTAfVIRAMAeSARGAmVOWEL SIGN AAbIbUcE
bIaIcObUaUcVOCALIC LaLcRaRzbT ARROW POINTING DOWNWARDS THEN NORTH EASTzqO BOXgZENE RINGa WITH CIRCLEwT SYMBO
LhWEENfVERAGE BOXlHAIKSUKI DANDAeIGIT EIGHTfFIVEdOUReNINEeONEdSEVENeIXdTHREEeWOdZEROjOUBLE DANDAmGAP FILLER-
1b2mHUNDREDS UNIT MARKsLETTER AaAbIbUcBAbHAdCAbHAdDAbDAbHAdHAdEbGAbHAdHAcIaIcJAbHAdKAbHAdLAcMAcNAbGAcNAcYAdO
bPAbHAdRAcSAbHAcSAdTAbHAcTAbHAeUaUcVAbOCALIC LbRaRkYAjNUMBER EIGHTaYgFIFTYdVEdORTYdUReNINEaTYgONEdSEVENaTYgI
XaTYfTENcHIRTYeREEeWENTYeOkSIGN ANUSVARAhVAGRAHAiCANDRABINDUlVIRAMAeSARGAmVOWEL SIGN AAbIbUcEbIaIcObUaUcVOCA
LIC LbRaRvWORD SEPARATORxICYCLEbISThG REVERSE SOLIDUSpSOLIDUSjKINIeLLED CAPgIARDShOHAZARD SIGNmRDbTHDAY CAKE
lSONdTCOIN SIGNjING LIPjLACK BOWTIEgCENTRE WHITE STARqHESS BISHOPa ROTATED NINETY DEGREESoTWO HUNDRED SEVENT
Y DEGREESzrEQUIHOPPERa ROTATED NINETY DEGREESziKINGa ROTATED NINETY DEGREESoTWO HUNDRED SEVENTY DEGREESzoNIG
HTa ROTATED FORTY-FIVE DEGREESsNINETY DEGREESoONE HUNDRED THIRTY-FIVE DEGREESzgTHREE HUNDRED FIFTEEN DEGREES
zdWO HUNDRED SEVENTY DEGREESpTWENTY-FIVE DEGREESzp-BISHOPgQUEENfROOKlPAWNa ROTATED NINETY DEGREESoTWO HUNDRE
D SEVENTY DEGREESzpQUEENa ROTATED NINETY DEGREESoTWO HUNDRED SEVENTY DEGREESzqROOKa ROTATED NINETY DEGREESoT
WO HUNDRED SEVENTY DEGREESzpTURNED BISHOPgKINGdNIGHTgPAWNeQUEENfROOKqIRCLEa FOR RECORDkWITH DOWN ARROWkTWO W
HITE DOTSoWHITE DOT RIGHTzbLUB SUITiROSS ON SHIELDoURVED DOWNWARDS AND LEFTWARDS ARROWpRIGHTWARDS ARROWzfLEF
TWARDS AND DOWNWARDS ARROWpUPWARDS ARROWzcRIGHTWARDS AND DOWNWARDS ARROWpUPWARDS ARROWzdUPWARDS AND LEFTWARD
S ARROWpRIGHTWARDS ARROWzkDIAMONDa CENTREDhMINUS WHITE XnON CROSSiSUITeWITH DOWN ARROWwOWN POINTING BACKHAN
D INDEXy-POINTING DOUBLE TRIANGLEpISOSCELES RIGHT TRIANGLEySMALL TRIANGLEoTRIANGLEsWARDS EQUILATERAL ARROWHE
ADzfRAUGHTS KINGeMANkOPLEThFLAGcORETTEhOLDEReUR POINTED STARrHARD SHELL FLOPPY DISKvEARTa SUITiXAGONgORIZONT
AL ELLIPSEqURGLASSjLARGE CIRCLEgSQUARElEFT LANE MERGEkPOINTING BACKHAND INDEXoINDEXp-POINTING DOUBLE TRIANGL
Ea WITH VERTICAL BARziISOSCELES RIGHT TRIANGLEyPOINTERhSMALL TRIANGLEoTRIANGLEsWARDS BULLETgEQUILATERAL ARRO
WHEADzfOWER LEFT TRIANGLEnRIGHT TRIANGLEsZENGEhMEDIUM DIAMONDgOWN-POINTING TRIANGLEa CENTREDzfLEFT-POINTIN
G TRIANGLEa CENTREDzeOZENGEhRIGHT-POINTING TRIANGLEa CENTREDzgSMALL DIAMONDhLOZENGEhSQUARElQUAREgUP-POINTIN
G TRIANGLEa CENTREDzjOON LILITHlNIBdOCTAGONhPARALLELOGRAMmENNANTeTAGONhUSHPINhQUESTION MARK ORNAMENTwRECTANG
LEiIGHT POINTING BACKHAND INDEXoINDEXp-POINTING DOUBLE TRIANGLEa WITH VERTICAL BARziISOSCELES RIGHT TRIANGLE
yPENTAGONhOINTERhSMALL TRIANGLEoTRIANGLEa WITH DOUBLE VERTICAL BARzsWARDS ARROWaHEADjBULLETgEQUILATERAL ARRO
WHEADzgOSETTEhSAFETY SCISSORSoCISSORShHOGI PIECEkKULL AND CROSSBONEStLIGHTLY SMALL CIRCLEgSQUAREuMALL DIAMON
DhLOZENGEhSQUAREfTARiILING FACElNOWMANgPADE SUITjQUAREa BUTTONgCENTREDhFOR STOPoTARdUN WITH RAYSnTELEPHONEiI
NY DIAMONDhLOZENGEhSQUAREkOUCHTONE TELEPHONEsRUCKeWO-WAY LEFT WAY TRAFFICyUNIVERSAL RECYCLING SYMBOLzP POINT
ING BACKHAND INDEXy-POINTING DOUBLE TRIANGLEpISOSCELES RIGHT TRIANGLEySMALL TRIANGLEoTRIANGLEsPER LEFT TRIAN
GLEnRIGHT TRIANGLEsWARDS EQUILATERAL ARROWHEADzeVERTICAL ELLIPSEhRECTANGLEpY SMALL DIAMONDhLOZENGEhSQUAREs-F
EATHERED NORTH EAST ARROWqRIGHTWARDS ARROWqSOUTH EAST ARROWzbLETTER CAPITAL CbHbIbRbZtNK SYMBOLkOCK SEXTANT-
1a2a3a4a5b6c5a6c6c4a5a6c6c5a6c6c3a4a5a6c6c56c6c4a5a6c6c5a6c6c2a3a4a5a6c6c5a6c6c4a5a6d5a6c6c3a4a5a6c6c5a6c6c4
a5a6c6c5a6c6mSSOMeWFISHgUE BOOKeHEARTgBERRIESkOARcLD EIGHT SPOKED ASTERISKvFIVE SPOKED ASTERISKuGREEK CROSSl
SALTIREgIX SPOKED ASTERISKtWHITE CIRCLEgSQUAREpMaBcNEcOKaMARKa TABSjScMERANGhPOMOFO FINAL LETTER GbHbKbPbToL
ETTER AaHbIaNNdMbNaGbNcUaNNeBaUcCaHcDbEaEbHbIbNaGbNcRcFbGaHbNbUbWcHbIaHbMbNNaNdRbUcJaIcKaWcLaHcMbNaGaGcNcO
a WITH DOT ABOVEpEbMbNGbNcObUcPbQbRbSaHcTbUaNNdVbXbZaHbIbYqTTLE WITH POPPING CORKuOM ARC ANTICLOCKWISE ARROW
xCURLY BRACKETnHALF BLACK CIRCLEmINTEGRALiLEFT PARENTHESISqRIGHT PARENTHESISwLEFT CORNERfROPeHALF BRACKETrPA
RENTHESISlRIGHT CORNERfROPeHALF BRACKETsSQUARE BRACKETa OVER TOP SQUARE BRACKETznTORTOISE SHELL BRACKETzcUQU
ETa OF FLOWERSqW AND ARROWkL OF HYGIEIAkWITH SPOONlINGeTIEa WITH LEFT HALF BLACKpRIGHT HALF BLACKzbX DRAWING
S DOUBLE DOWN AND HORIZONTALkLEFTeRIGHToHORIZONTALkUP AND HORIZONTALkLEFTeRIGHTmVERTICALa AND HORIZONTALkLEF
TeRIGHTxWN DOUBLE AND HORIZONTAL SINGLErLEFT SINGLElRIGHT SINGLExHEAVY AND HORIZONTAL LIGHTqLEFT LIGHTfUP LI
GHTnRIGHT LIGHTfUP LIGHToUP HORIZONTAL LIGHTzeLIGHT AND HORIZONTAL HEAVYqLEFT HEAVYfUP HEAVYnRIGHT HEAVYfU
P HEAVYoUP HORIZONTAL HEAVYzeSINGLE AND HORIZONTAL DOUBLErLEFT DOUBLElRIGHT DOUBLEzdHEAVY DOUBLE DASH HORIZO
NTALkVERTICALsWNa AND HORIZONTALkLEFTeRIGHToHORIZONTALkLEFTa AND LIGHT RIGHTuQUADRUPLE DASH HORIZONTALkVERTI
CALxRIGHTfTRIPLE DASH HORIZONTALkVERTICALuUPa AND HORIZONTALkLEFTdIGHT DOWNkRIGHTmVERTICALa AND HORIZONTALkL
EFTeRIGHTyLEFT DOWN HEAVY AND RIGHT UP LIGHTzeHEAVY AND RIGHT DOWN LIGHTkUP LIGHTiVERTICAL LIGHTzfLIGHT AN
D RIGHT DOWN HEAVYkUP HEAVYiVERTICAL HEAVYzfUP HEAVY AND RIGHT DOWN LIGHTziIGHT ARC DOWN AND LEFTeRIGHToUP A
ND LEFTeRIGHTqDIAGONAL CROSSfDIAMONDhMIDDLE LEFT TO LOWER CENTREa TO MIDDLE RIGHTzdUPPER CENTRE TO MIDDLE RI
GHTa TO LOWER CENTREzzcRIGHT TO LOWER CENTREmUPPER CENTRE TO MIDDLE LEFT TO LOWER CENTREzzjUPPER CENTRE TO M
IDDLE LEFTa AND MIDDLE RIGHT TO LOWER CENTREzhTO LOWER CENTREa TO MIDDLE RIGHTzlRIGHTa AND MIDDLE LEFT TO LO
WER CENTREzgTO LOWER CENTREa TO MIDDLE LEFTzzdLEFT TO LOWER RIGHTtRIGHT TO LOWER LEFTziOUBLE DASH HORIZONTAL
kVERTICALsWNa AND HORIZONTALkLEFTeRIGHToHORIZONTALa WITH VERTICAL STROKEzgLEFTa AND HEAVY RIGHTuQUADRUPLE DA
SH HORIZONTALkVERTICALxRIGHTfTRIPLE DASH HORIZONTALkVERTICALuUPa AND HEAVY DOWNjORIZONTALkLEFTeRIGHTmVERTICA
La AND HORIZONTALkLEFTeRIGHTyRIGHT DOWN HEAVY AND LEFT UP LIGHTzdHEAVY AND LEFT DOWN LIGHTkUP LIGHTiVERTICA
L LIGHTzeLIGHT AND LEFT DOWN HEAVYkUP HEAVYiVERTICAL HEAVYzeUP HEAVY AND LEFT DOWN LIGHTzjUP DOUBLE AND HORI
ZONTAL SINGLErLEFT SINGLElRIGHT SINGLExHEAVY AND DOWN HORIZONTAL LIGHTvHORIZONTAL LIGHTqLEFT DOWN LIGHTkLIGH
TkRIGHT DOWN LIGHTkLIGHTvLIGHT AND DOWN HORIZONTAL HEAVYvHORIZONTAL HEAVYqLEFT DOWN HEAVYkHEAVYkRIGHT DOWN H
EAVYkHEAVYvSINGLE AND HORIZONTAL DOUBLErLEFT DOUBLElRIGHT DOUBLEzbVERTICAL DOUBLE AND HORIZONTAL SINGLErLEF
T SINGLElRIGHT SINGLExHEAVY AND HORIZONTAL LIGHTqLEFT LIGHTkRIGHT LIGHTvLIGHT AND HORIZONTAL HEAVYqLEFT HEAV
YkRIGHT HEAVYvSINGLE AND HORIZONTAL DOUBLErLEFT DOUBLElRIGHT DOUBLEzrING GLOVEkYaS SYMBOLkPHcRAHMI DANDAeIGI
T EIGHTfFIVEdOUReNINEeONEdSEVENeIXdTHREEeWOdZEROjOUBLE DANDAmLETTER AaAbIbUcBAbHAdCAbHAdDAbDAbHAdHAdEbGAbHAd
HAcIaIcJAbHAdKAbHAdLAbLAdMAcNAbGAcNAcYAdOaLD TAMIL LLAbLAeNNNAeRRAdSHORT EbOrPAbHAdRAcSAbHAcSAdTAbHAcTAbHAeU
aUcVAbOCALIC LaLcRaRkYAjNUMBER EIGHTaYgFIFTYdVEdORTYdUReJOINERgNINEaTYgONEa HUNDREDhTHOUSANDmSEVENaTYgIXaTYf
TENcHIRTYeREEeWENTYeOkPUNCTUATION CRESCENT BARmDOTbUBLE DOTkLINEdOTUSrSIGN ANUSVARAiCANDRABINDUlJIHVAMULIYAl
OLD TAMIL VIRAMAqUPADHMANIYAlVISARGAmVIRAMAfOWEL SIGN AAbIbUcBHATTIPROLU AAoEbIaIcOaLD TAMIL SHORT EbOrUaUcV
OCALIC LaLcRaRzILLE PATTERN BLANKfDOTS-1a2a3a4a5a6a7a8c8c7a8c8c6a7a8c8c7a8c8c5a6a7a8c8c7a8c8c6a7a8c8c7a8c8c4
a5a6a7a8c8c7a8c8c6a7a8c8c7a8c8c5a6a7a8c8c7a8c8c6a7a8c8c7a8c8c3a4a5a6a7a8c8c7a8c8c6a7a8c8c7a8c8c5a6a7a8c8c7a8
c8c6a7a8c8c7a8c8c4a5a6a7a8c8c7a8c8c6a7a8c8c7a8c8c5a6a7a8c8c7a8c8c6a7a8c8c7a8c8c2a3a4a5a6a7a8c8c7a8c8c6a7a8c8
c7a8c8c5a6a7a8c8c7a8c8c6a7a8c8c7a8c8c4a5a6a7a8c8c7a8c8c6a7a8c8c7a8c8c5a6a7a8c8c7a8c8c6a7a8c8c7a8c8c3a4a5a6a7
a8c8c7a8c8c6a7a8c8c7a8c8c5a6a7a8c8c7a8c8c6a7a8c8c7a8c8c4a5a6a7a8c8c7a8c8c6a7a8c8c7a8c8c5a6a7a8c8c7a8c8c6a7a8
c8c7a8c8sNdEADbK PERMITTED HEREqST-FEEDINGlVEdICKcDE WITH VEILlGE AT NIGHTmEFCASEeSeOCCOLIfKEN BARdCIRCLE WI
TH NORTHWEST ARROWzcHEARTjOMcWN HEARTkSbUBBLE TEAeSfCKETeGaINESE END OF SECTIONoLETTER AbBAcCAcDAcGAcHAcJAcK
AcLAcMAbPAdNAbGAbKAdRAcYAbCAePAcRAcSAcTAcVAcYAjPALLAWAhVOWEL SIGN AEcEbIbObUtHID LETTER AbBAcDAcGAcHAcIbKAcL
AcMAcNAbGAdPAcRAcSAcTAcUbWAcYAjVOWEL SIGN IbUqILDING CONSTRUCTIONtLLETa OPERATORlHORNa WITH SOUND WAVESvSEYE
gRRITOfSa STOPfT IN SILHOUETTEoS IN SILHOUETTErTTERaFLYiYTE ORDER MARKnZANTINE MUSICAL SYMBOL AGOGI ARGIbOTE
RIiGORGIbOTERIjMESIcTRIAgPOLI ARGIeGORGIpNATRICHISMAkTIKENOKYLISMAhMAjPESO EKFONITIKONkXO NEOlLIcODERMA ARCH
AIONiNEOjSTROFOI SYNDESMOS NEOnTELOUS ICHIMATOSsSa DIPLIfNEOlTHEMAhRGONbSYNTHETONlKTIKO DIcGAcKEcNIcPAcVOUdZ
OkCHAMILIbONgOREVMA ARCHAIONiNEOkROA KLITONgSPATHIgZYGOSlDASEIAfIARGONeSTOLI APLI MEGALIfIKRIkDIPLIfTHESEOSo
ESIS APLI DYO DODEKATArDIGRAMMOS EX DODEKATAvMONOGRAMMOS TESSERA DODEKATAzdTETARTIMORIONmRIGRAMMOS OKTO DODE
KATAvTIMORIONqFTOGGOS OUkGORGONa PARESTIGMENON ARISTERA ANOdKATOnDEXIAzRAMMA GGjPLIa ARCHAIONnYOdEKSTREPTONj
LAFRONgNARXIS KAI FTHORA VOUuDOFONONiPEGERMAhTERON ARGOSYNTHETONnPARAKALESMArXO EKFONITIKONpFANEROSIS DIFONI
ASiMONOFONIASkTETRAFONIASuHTORA SKLIRON CHROMA VASISzbTHORA ARCHAIONa DEYTEROU ICHOUxDIATONIKI DIcKEcNANAd
I ANOdKATOhPAcZOmENARMONIOS ANTIFONIAuI YFESIS TETARTIMORIONwMALAKON CHROMA DIFONIASiMONOFONIASzNAOS ICHOSjE
NANOgSKLIRON CHROMA SYNAFIgVASISmDIATONON DIzbGENIKI DIESISgYFESISmORGON ARCHAIONiNEO ANOdKATOiPARESTIGMENO
N ARISTERAiDEXIAvSYNTHETONlTHMIKON N APLOUNgDIPLOUNtRONTHISMATAmICHADINgMIDIARGONhFONONeTHORAbONjSAKIA TELOU
S ICHIMATOSvON ARCHAIONiNEOiKATAVA TROMIKONjSMAgHISTIhENTIMA ARCHAIONiNEO ANOdKATOeMESOjTAa ARCHAIONiNEO ANO
dKATOeMESOrLASMAa ANOdKATOkONTEVMAa ALLOlRONISfUFISMAhRATIMA ALLOdRCHAIONiNEOeTAdOKOUFISMAiYPORROONnEMASTIhY
LISMAhLEIMMA DYO CHRONONlENOS CHRONOUmIMISEOS CHRONOUpTESSARON CHRONONpRION CHRONONsMOIeYGISMAhMARTYRIA ALL
I DEYTEROS ICHOSoPROTOS ICHOSrDEYTEROS ICHOSoLEGETOS ICHOSnPLAGIOS ICHOSfTETARTOS ICHOSvROTOS ICHOShVARYS IC
HOSqTETARTOS ICHOSfLEGETOS ICHOSvRIFONIASgTOS ICHOSmVARYS ICHOStIKRON ISONlNANAeOLIGON ARCHAIONiNEOjMALONfXE
IA DIPLIfEKFONITIKONlNEOeI ARCHAIONoYRANISMA ARCHAIONiNEOnPARAKALESMA ARCHAIONiNEOkLITIKIa ARCHAIONiNEOmICHO
NhELASTONa NEOkRISPOMENIjTASMAcTIbOKOUFISMAoIASMA ARCHAIONiNEOjSIFISTOLYGISMAhNa NEOfPARAKALESMAlSYNAGMAmLIb
ONgRAPISMAgEVMAfSAXIMATAhEISMAa NEOjIMANSIS ARSEOSa DISIMOUhTETRASIMOUjRISIMOUpTHESEOSa DISIMOUhTETRASIMOUjR
ISIMOUyTAVROSa APODEXIAoIGMAeRAGGISMATAlYNAGMA ARCHAIONiMETA STAVROUmNEOiEVMAfRMAaTIKIjTELEIAeSSERAfTRAPLIhH
EMAa APLOUNhTISMOS ESOcXOmS KAI APOTHESoITAeINAGMAgRIAbGORGONgPLIeOMIKOLYGISMAhN ALLOdRCHAIONiNEOfPARAKALESM
AkSIFISTONjSYNAGMAoVAREIA DIPLIfEKFONITIKONlNEOeI ARCHAIONoTHYfXIRON KLASMAmYFEN ANOdKATOgSIS APLI DYO DODEK
ATArDIGRAMMOS EX DODEKATAvMONOGRAMMOS TESSERA DODEKATAzdTRIGRAMMOS OKTO DODEKATAvTIMORIONrPOKRISISa DIPLImRR
OIfSILI"

/-- The names that start with C. -/
def namesC : String := "aCACTUSeDA UNAfUCEUSgLENDARfL ME HANDkMERAa WITH FLASHoPINGfNaADIAN SYLLABICS AaAaIbYcIaVILIK BiNbTHAPASCA
N MbSlYcBEAVER DENE LbRmIBLE-CREE YlLACKFOOT AbEbIbKAbEbIbOcNAbEbIbOcObSbWaAbEbIbOmCaAaAaIcRRIER CHAbEaEcIbO
bUdDEEbNE GEEfTAL ShIbLAbEaEcIbObUcZAbEaEcIbObUdEEcGAaAcEaEcHAbEaEcIbObUcIbObUbWAbUdHaEEcIbWAbEaEcIbObUdIaNI
TIAL ZjJAbEaEcIbJAbEaEcIbObUcObUbWAdKHAbEaEcIbObUcKaAbEaEcIbObUdLAbEaEcHAbEaEcIbObUcIbObUcMAbEaEcIbObUcNAbEa
EcGbIbObUcPaAbEaEcIbObUcRAbEaEcIbObUcSAbEaEcHaAbEaEcIbObUcIbObUcTHAbEaEcIbObUcLAbEaEcHAbEaEcIbObUcIbObUcSAbE
aEcIbObUcTAbEaEcIbObSAbEaEcIbObUcUdWAbEaEcIbObUcYAbEaEcIbObUcZaAbEaEcIbObUjEbHI SIGNhIaIcOaOcWAaAcEbIaIcOaOe
EaASTERN WiNcFaAaAaIdEbIaIbNAL ACUTEfBOTTOM HALF RINGqDOUBLE ACUTEfSHORT VERTICAL STROKESzcWN TACKjGRAVEfMID
DLE DOTkPLUSeRAISED DOTjIGHT HALF RINGnNGeSHORT HORIZONTAL STROKEwMALL RINGkTOP HALF RINGsOaOcULL STOPiWAAeG
LOTTAL STOPmHKbYPHENgIaIbNcKaAaAaIcYcEbIaIcOaOcWaAaAbYcEbIaIcOaOeLaAaAaIcYcEbHaAaAcIaIcOaOdIaIcOaOcWAaAcEbIa
IcOaOeMaAaAaIcYcEaDIAL LbRhHbIaIcOaOaSE-CREE SKmWAaAcEbIaIcOaOeNa-CREE THEbIaIkAaAaIcSKAPI CWAAeKWAAeMWAAeNW
AAeS-WcCWAdKWaAdPWAdTWAdWAAeTWAAeWAAcOOdYWAAkTTILIK HAaAcIaIcOaOdSHRAaAcIaIcOaOmYcEbGaAaAaIcIcIaIcOaOdHbIaIc
NGaAaAcIaIcOaOeOaObYcUNAVIK HaAaAcEbIaIcOaOgUT HiWAaAcEbIaIcOaOeOaJIBWAY CbKbMbNaWIaIcOaOePbSaHcTiNbObYcPaAa
AaIcYcEbIaIcOaObYcWAaAcEbIaIcOaObYeQaAaAaIcIcIaIcOaOdRa-CREE REbWEjAaAaIcYcEbIaIcOaOcWAaAcEEcIaIcOaOeSaAaAaI
cYaISI HAbEbIbOaOdJIbUaUdMbSHAbEbIbOaOcWEeTHcYIiEbHaAaAbYcEbIaIcOaObYcWAaAcEbIaIcOaObYeIaIcOaObUTH-SLAVEY KA
HcEHcIHcOHoYcPAbEbIbOcWaAaAcEbIaIcOaOeTaAaAaIcYcEbHa-CREE THaAaAcEbIaIcOaOkAaAcEbIaIcOaOcWAaAcEdIaIcLHAbEbIb
OaOcWEeOaOcTAbEbHaAaAcEbIbOaOcWEdIbOcWAaAcEbIaIcOaOdYAbEbIbOdWAaAbYcEaST-CREE CWAaAcEbIaIcOaOeFWAAeKWAaAcEbI
aIcOaOeLaAaAcEbOaOcWAaAcEbIaIcOaOeMaWAaAcEbIaIcOaOeNWAaAcEdPaWAaAcEbIaIcOaOeRaAbEbIbObWAAeSHWAaAcEbIaIcOaOeW
AaAcEbIaIcOaOeTHWAAeWAaAcEbIaIcOaOeWAaAcEbIaIcOaOdYaWAaAcEbIaIcOaOkERN WiIaIcOaOaDS-CREE FINAL THiTHaAbEbIbO
bWAaAcEEcIaIcOaOqYa-CREE COOdKOOdLOOdMOOdNOOdOOcPOOcWAAeSOOdTOOdWbYOOjAaAaIcYcEbIaIcOaObYcWAaAcEbIaIcOaOuCEL
a CHARACTERjTAGeLATION XjRdDLEcYcNED FOODiOEdPITULUMgRICORNhR SLIDINGiD FILE BOXiINDEXa DIVIDERSqE OFdTa INS
ERTION POINTsIAN LETTER Aa2cBbC-18c39eDa2cEa2cGa2cIaIcKa2cLaDa2dMaBa2b3b4dNaDbGbNcObPa2cQbRaRcSaHa2cSbTa2dTa
Ta2dUaUaUa2b3bUeXmONbUSEL HORSElP STREAMERjENTRY SAWkRIAGE RETURNlOTeSTLEeTa FACEa WITH TEARS OF JOYmWRY SMI
LEvUCASIAN ALBANIAN CITATION MARKnLETTER ALTcORdBETdCARbYNdHAaTcIbOYdYAWbYeDATcYANdZAYcYAYfEBbYNdFAMdGHEYSeI
MdHEYTeINYAdRBcWNdJAYNdHOXeKARcIWdLANcYITeMAQdNOWCeONcPENcIWReQARbYdRATdSEYKdHAaKcOYeTAScIWRdYAYeVEYZeXEYNeY
AYDdOWDeZARLdHAbILzcTION SIGNlCHcEDI SIGNfLLAfLTIC CROSSkNT SIGNfRE LINE SYMBOLmLINE LOW LINEiOVERLINErRESeG
JcHAINScRcKMA AU MARKhDANDAeIGIT EIGHTfFIVEdOUReNINEeONEdSEVENeIXdTHREEeWOdZEROjOUBLE DANDAmLETTER AAcBAAcHA
AeCAAcHAAeDAAcDAAcHAAeHAAeEbGAAcHAAeHAAdIbJAAcHAAeKAAcHAAeLAAcHAAeMAAdNAAcGAAdNAAdYAAePAAcHAAeRAAdSAAdTAAcHA
AdTAAcHAAfUbVAAdWAAdYAAcYAAlMAAYYAAhO MARKgQUESTION MARKnSECTION MARKlIGN ANUSVARAiCANDRABINDUlVISARGAmVIRAM
AfOWEL SIGN AaAbIbUcEaIcIaIcOaIcUaUrM CONSONANT SIGN FINAL HbMbNGiLAcRAcWAcYArDIGIT EIGHTfFIVEdOUReNINEeONEd
SEVENeIXdTHREEeWOdZEROkLETTER AaIcBAbBAcHAdCHAbHAeDAbDAcHAdEbFINAL CHcGbKbLbNaGcPbRbSScTbYhGAbHAdHAcIbJAbHAd
KAbHAdLAcMAbUEdNAbGAbUEdHAbJAcUEdUEdObPAbHAcPAdRAcSAbSAdTAbHAdUbVAcYAjPUNCTUATION DANDAeOUBLE DANDAmSPIRALgT
RIPLE DANDAyVOWEL SIGN AAbIbUcEIcIaIcOaEcUaEpRACTER TABULATIONa SETdWITH JUSTIFICATIONzdIEjT WITH DOWNWARD
S TRENDpUPWARDS TRENDa AND YEN SIGNzkECK MARKfER BOARDa FILLpERING MEGAPHONEoSE WEDGEjQUERED FLAGlROKEE LETT
ER AbDAbEbIbLAcObUbVcEbGAbEbIbObUbVcHAbEbIbNAcObUbVcIbKAcLAbEbIbObUbVcMAbEbIbObUbVcNAaHcEbIbObUbVcObQUAbEbIb
ObUbVdSaAbEbIbObUbVcTAbEbIbLAbEbIbObUbVcSAbEbIbObUbVdUbVbWAbEbIbObUbVcYAbEbIbObUbVjSMALL LETTER AbDAbEbIbLAc
ObUbVcEbGAbEbIbObUbVcHAbEbIbNAcObUbVcIbKAcLAbEbIbObUbVcMAbEbIbObUbVcNAaHcEbIbObUbVcObQUAbEbIbObUbVdSaAbEbIbO
bUbVcTAbEbIbLAbEbIbObUbVcSAbEbIbObUbVdUbVbWAbEbIbObUbVcYAbEbIbObUbVuRIESdY BLOSSOMlSTNUTgI RHOeCKENeLDaREN C
ROSSINGoPMUNKfRONeOCOLATE BARkPSTICKShRASMIAN LETTER ALEPHeYINeBETHeCURLED WAWkDALETHgGIMELfHEaTHeKAPHeLAMED
HgMEMdNUNdPEcRESHeSAMEKHfHINdMALL ALEPHlTAWdWAWdYODHeZAYINmNUMBER FOUReONEa HUNDREDlTENcHREEeWENTYeOtRISTMA
S TREEmURCHfINEMAeRCLE DIVIDED BY HORIZONTAL BAR AND TOP HALF DIVIDED BY VERTICAL BARzzmWITH ALL BUT UPPER L
EFT QUADRANT BLACKziHORIZONTAL BARoLEFT HALF BLACKoOWER HALF BLACKqRIGHT HALF BLACKqSMALL CIRCLE TO THE RIGH
TyUPERIMPOSED XoTWO HORIZONTAL STROKES TO THE RIGHTzkUPPER HALF BLACKkRIGHT QUADRANT BLACKzbVERTICAL FILLt
D ANTICLOCKWISE ARROWg-ROTATED DIVISION SIGNzjSTERISK OPERATORrBOLD XfULLETgC WITH OVERLAID BACKSLASHyCbDbRO
SS FORMEEa WITH FOUR DOTSjTWO DOTSuPOMMEEhING LANESoDASHdIGIT EIGHTfFIVEdOUReNINEeONEdSEVENeIXdTHREEeWOdZERO
iVISION SIGNdLASHnOLLAR SIGN WITH OVERLAID BACKSLASHziT OPERATORmEQUALSgGREATER-THANmHANGUL CHIEUCHa AiIEUC
a AhHIEUHa AhIEUNGa AbUhKHIEUKHa AiIYEOKa AiMIEUMa AhNIEUNa AhPHIEUPHa AiIEUPa AhRIEULa AhSIOSa AgTHIEUTHa A
iIKEUTa AoEAVY WHITE RIGHTWARDS ARROWzcORIZONTAL BAR WITH NOTCHyUMAN FIGUREmIDEOGRAPH ACCEPTfDVANTAGEiLLIANC
EhTTENTIONjCENTREfONGRATULATIONmPYcRRECThEARTHeIGHTeNTERPRISEjXCELLENTjFEMALEfINANCIALhREcVEdOUReHAVEdIGHeIT
EMeKINDERGARTENlOTOeLABOReEFTdOWdMALEdEDICINEgTALeOONeNAMEdIGHTdNEeONEdPRINTfQUESTIONiRELIGIONgSOURCEfTdIGHT
fSCHOOLfECRETeVENeIXcOCIETYgPECIALgTOCKdUDYeUITABLEgNbPERVISEjTENcHREEeWOdWATEReOODnNFORMATION SOURCErTALI
C LATIN CAPITAL LETTER CbRzeKATAKANA AbEbHAbEbIbObUcIbKAbEbIbObUcMAbEbIbObUcNAbEbIbObUcObRAbEbIbObUcSAbEbIbO
bUcTAbEbIbObUcUbWAbEbIbOcYAbObUkOREAN CHARACTER CHAMKOgJUEUIwLATIN CAPITAL LETTER AbBbCbDbEbFbGbHbIbJbKbLbMb
NbObPbQbRbSbTbUbVbWbXbYbZqSMALL LETTER AbBbCbDbEbFbGbHbIbJbKbLbMbNbObPbQbRbSbTbUbVbWbXbYbZtESS-THANjMINUSeUL
TIPLICATION SIGN WITH CIRCUMFLEX ACCENTzrNUMBER EIGHTEENdY ON BLACK SQUAREvLEVENgFIFTEENdYa ON BLACK SQUAREu
ORTYa EIGHTfFIVEdOUReNINEeON BLACK SQUAREnEdSEVENeIXdTHREEeWOhURTEENiNINETEENiSEVENTEENdY ON BLACK SQUAREwIX
TEENdY ON BLACK SQUAREvTENa ON BLACK SQUAREsHIRTEENdYa EIGHTfFIVEdOUReNINEeON BLACK SQUAREnEdSEVENeIXdTHREEe
WOjWELVEdNTYa EIGHTfFIVEdOUReNINEeON BLACK SQUAREnEdSEVENeIXdTHREEeWOrOPEN CENTRE EIGHT POINTED STARzfPARALL
ELhERPENDICULARmLUSdOSTAL MARKlREVERSE SOLIDUSoING OPERATORnSQUAREgTIMESeRIANGLEa DOWNnVERTICAL BARmWHITE BU
LLETgSTARjZcXbZERO WITH SLASHtULATION FUNCTIONpMFLEX ACCENTmS TENTjTYSCAPEa AT DUSKqJK COMPATIBILITY IDEOGRA
PH-2F800b1b2b3b4b5b6b7b8b9bAbBbCbDbEbFc10b1b2b3b4b5b6b7b8b9bAbBbCbDbEbFc20b1b2b3b4b5b6b7b8b9bAbBbCbDbEbFc30b
1b2b3b4b5b6b7b8b9bAbBbCbDbEbFc40b1b2b3b4b5b6b7b8b9bAbBbCbDbEbFc50b1b2b3b4b5b6b7b8b9bAbBbCbDbEbFc60b1b2b3b4b5
b6b7b8b9bAbBbCbDbEbFc70b1b2b3b4b5b6b7b8b9bAbBbCbDbEbFc80b1b2b3b4b5b6b7b8b9bAbBbCbDbEbFc90b1b2b3b4b5b6b7b8b9b
AbBbCbDbEbFcA0b1b2b3b4b5b6b7b8b9bAbBbCbDbEbFcB0b1b2b3b4b5b6b7b8b9bAbBbCbDbEbFcC0b1b2b3b4b5b6b7b8b9bAbBbCbDbE
bFcD0b1b2b3b4b5b6b7b8b9bAbBbCbDbEbFcE0b1b2b3b4b5b6b7b8b9bAbBbCbDbEbFcF0b1b2b3b4b5b6b7b8b9bAbBbCbDbEbFd900b1b
2b3b4b5b6b7b8b9bAbBbCbDbEbFc10b1b2b3b4b5b6b7b8b9bAbBbCbDbEbFc20b1b2b3b4b5b6b7b8b9bAbBbCbDbEbFc30b1b2b3b4b5b6
b7b8b9bAbBbCbDbEbFc40b1b2b3b4b5b6b7b8b9bAbBbCbDbEbFc50b1b2b3b4b5b6b7b8b9bAbBbCbDbEbFc60b1b2b3b4b5b6b7b8b9bAb
BbCbDbEbFc70b1b2b3b4b5b6b7b8b9bAbBbCbDbEbFc80b1b2b3b4b5b6b7b8b9bAbBbCbDbEbFc90b1b2b3b4b5b6b7b8b9bAbBbCbDbEbF
cA0b1b2b3b4b5b6b7b8b9bAbBbCbDbEbFcB0b1b2b3b4b5b6b7b8b9bAbBbCbDbEbFcC0b1b2b3b4b5b6b7b8b9bAbBbCbDbEbFcD0b1b2b3
b4b5b6b7b8b9bAbBbCbDbEbFcE0b1b2b3b4b5b6b7b8b9bAbBbCbDbEbFcF0b1b2b3b4b5b6b7b8b9bAbBbCbDbEbFdA00b1b2b3b4b5b6b7
b8b9bAbBbCbDbEbFc10b1b2b3b4b5b6b7b8b9bAbBbCbDfF900b1b2b3b4b5b6b7b8b9bAbBbCbDbEbFc10b1b2b3b4b5b6b7b8b9bAbBbCb
DbEbFc20b1b2b3b4b5b6b7b8b9bAbBbCbDbEbFc30b1b2b3b4b5b6b7b8b9bAbBbCbDbEbFc40b1b2b3b4b5b6b7b8b9bAbBbCbDbEbFc50b
1b2b3b4b5b6b7b8b9bAbBbCbDbEbFc60b1b2b3b4b5b6b7b8b9bAbBbCbDbEbFc70b1b2b3b4b5b6b7b8b9bAbBbCbDbEbFc80b1b2b3b4b5
b6b7b8b9bAbBbCbDbEbFc90b1b2b3b4b5b6b7b8b9bAbBbCbDbEbFcA0b1b2b3b4b5b6b7b8b9bAbBbCbDbEbFcB0b1b2b3b4b5b6b7b8b9b
AbBbCbDbEbFcC0b1b2b3b4b5b6b7b8b9bAbBbCbDbEbFcD0b1b2b3b4b5b6b7b8b9bAbBbCbDbEbFcE0b1b2b3b4b5b6b7b8b9bAbBbCbDbE
bFcF0b1b2b3b4b5b6b7b8b9bAbBbCbDbEbFdA00b1b2b3b4b5b6b7b8b9bAbBbCbDbEbFc10b1b2b3b4b5b6b7b8b9bAbBbCbDbEbFc20b1b
2b3b4b5b6b7b8b9bAbBbCbDbEbFc30b1b2b3b4b5b6b7b8b9bAbBbCbDbEbFc40b1b2b3b4b5b6b7b8b9bAbBbCbDbEbFc50b1b2b3b4b5b6
b7b8b9bAbBbCbDbEbFc60b1b2b3b4b5b6b7b8b9bAbBbCbDc70b1b2b3b4b5b6b7b8b9bAbBbCbDbEbFc80b1b2b3b4b5b6b7b8b9bAbBbCb
DbEbFc90b1b2b3b4b5b6b7b8b9bAbBbCbDbEbFcA0b1b2b3b4b5b6b7b8b9bAbBbCbDbEbFcB0b1b2b3b4b5b6b7b8b9bAbBbCbDbEbFcC0b
1b2b3b4b5b6b7b8b9bAbBbCbDbEbFcD0b1b2b3b4b5b6b7b8b9zdRADICAL BAMBOOfLUEdOLT OF CLOTHlNEcXcRUSH ONEdTWOjC-SIMP
LIFIED BIRDeCARTeDRAGONgEATcVENeFISHdLYcROGeGATEdOLDeHORSEfLEAFdONGeSALTdEEcHELLeILKdPEECHgTANNED LEATHERnOO
THeURTLEgWINDqHOKEeITYcVILIANhLIFFdOTHESgOWdDEATHeIVINATIONjOGdEAT ONEdTHREEeWOgWEcYEdFIREdOOTeGHOSTeRASS ON
EdTHREEeWOjHANDdEADbRT ONEdTWOiORNeJ-SIMPLIFIED DRAGONgEVENeTOOTHeURTLEsADEeKNIFE ONEdTWOjLAME FOUReONEdTHRE
EeWOhONG ONEdTWOiMEATcSHdOONcRTAReTHEReUND ONEdTWOjNET FOUReONEdTHREEeWOhOLDdPAW ONEdTWOgERSONgRAINcMbPcEPEA
TgSEALcCOND ONEdTHREEeWOjHEEPeILKcMPLIFIED HALF TREE TRUNKoORNeWALKdHEATfYELLOWqMALL ONEdTWOiNAKEdOUT ONEdTW
OiPIRIT ONEdTWOjUNdTABLEeHREADfIGEReURTLEgWALK ONEdTWOgTER ONEdTWOiEST ONEdTWOqSTROKE BXGdDbHaGbPaWGdXWGdZaG
bTbWaGcZaPbZaGfNbPaDbGbZcQbSaGbPbTbWaGbZcZaWGcZdTaNcWGcXGmLAMSHELL MOBILE PHONEtPPER BOARDiING HANDS SIGNqSS
ICAL BUILDINGqEAR SCREEN SYMBOLrINKING BEER MUGSjGLASSESnPBOARDhOCK FACE EIGHT OCLOCKh-THIRTYlLEVEN OCLOCKh-
THIRTYnFIVE OCLOCKh-THIRTYkOUR OCLOCKh-THIRTYlNINE OCLOCKh-THIRTYlONE OCLOCKh-THIRTYkSEVEN OCLOCKh-THIRTYlI
X OCLOCKh-THIRTYkTEN OCLOCKh-THIRTYjHREE OCLOCKh-THIRTYlWELVE OCLOCKh-THIRTYlO OCLOCKh-THIRTYqWISE CLOSED CI
RCLE ARROWsONTOUR INTEGRALqDOWNWARDS AND UPWARDS OPEN CIRCLE ARROWSzpGAPPED CIRCLE ARROWtINTEGRALiOPEN CIRCL
E ARROWrRIGHT AND LEFT SEMICIRCLE ARROWSzcWARDS AND LEFTWARDS OPEN CIRCLE ARROWSa WITH CIRCLED ONE OVERLAYzz
sTOP SEMICIRCLE ARROWtRIANGLE-HEADED OPEN CIRCLE ARROWzpSE UPdD BOOKeINTERSECTION WITH SERIFSyLOCK WITH KEYn
MAILBOX WITH LOWERED FLAGmRAISED FLAGySUBSETa OR EQUAL TOqPERSETa OR EQUAL TOuUMBRELLAhNION WITH SERIFSa AN
D SMASH PRODUCTzoUDa WITH LIGHTNINGjRAINeSNOWeTORNADOpWN FACEjOATcCKROACHfTAIL GLASSlONUTfFFINeINcLLISION SY
MBOLnONa EQUALSgSIGNiMBINING ACUTE ACCENTa BELOWmTONE MARKk-GRAVE-ACUTElMACRONlLMOST EQUAL TO ABOVEfBELOWuNN
UITY SYMBOLmTICLOCKWISE ARROW ABOVElRING OVERLAYzSTERISK ABOVEfBELOWoBINDU BELOWkREVEa BELOWg-MACRONkIDGE AB
OVEfBELOWmCANDRABINDUjRONa BELOWkEDILLAgIRCUMFLEX ACCENTa BELOWwLOCKWISE ARROW ABOVElRING OVERLAYvOMMA ABOVE
a RIGHTlBELOWjNJOINING MACRONa BELOWwYRILLIC DASIA PNEUMATAoHUNDRED MILLIONS SIGNnTHOUSANDS SIGNwKAVYKAgLETT
ER AbBEbIG YUShCHEdDEbJERVfEFbLbMbNbRbSa-TEfFITAeGHEdHAaRD SIGNjIaEbOTIFIED AbBIG YUShEkKAcLITTLE YUSkMONOGR
APH UKmOaMEGAfPEcSHAbCHAeOFT SIGNjTEbSEdUaKRAINIAN IEmVEcYATcERUdIbUcZEbHEkMILLIONS SIGNnPALATALIZATIONmYERO
KgOKRYTIEhSILI PNEUMATAoTEN MILLIONS SIGNqHOUSAND MILLIONS SIGNvITLOa LEFT HALFjRIGHT HALFqVZMEToDELETION MA
RKlVANAGARI DIGIT EIGHTfFIVEdOUReNINEeONEdSEVENeIXdTHREEeWOdZEROkLETTER AbKAcNAcPAcRAcUbVIjSIGN AVAGRAHAxIAE
RESISa BELOWg-RINGnOT ABOVEa LEFTeRIGHTlBELOWa LEFTlTED ACUTE ACCENTmGRAVE ACCENTrUBLE ACUTE ACCENTmBREVEa B
ELOWlCIRCUMFLEX ABOVEqGRAVE ACCENTmINVERTED BREVEa BELOWuLOW LINEiMACRONa BELOWmOPEN MARK BELOWoVERLINEiPARE
NTHESES ABOVEqLUS SIGN ABOVEfBELOWpRIGHTWARDS ARROW BELOWuNG BELOWkTILDEa LEFT HALFjRIGHT HALFqVERTICAL LIN
E ABOVEfBELOWkSTROKE OVERLAYyD CIRCUMFLEX ACCENTxWN TACK BELOWlWARDS ARROWpENCLOSING CIRCLEa BACKSLASHqDIAMO
NDhKEYCAPgSCREENfQUAREgUPWARD POINTING TRIANGLEziQUALS SIGN BELOWrFERMATAgOUR DOTS ABOVEpGLAGOLITIC LETTER A
ZUdBIG YUSgUKYeCHRIVIgDJERVIfOBROfFITAdRITUfGLAGOLIhHERUeIaNITIAL IZHElOTATED BIG YUShSMALL YUSqZHEeKAKOeLJU
DIJEhMYSLITEhNASHIfONUdPOKOJIgRITSIfSHAbTAdLOVOeMALL YUSjTSIcVRIDOgUKUdVEDEeYATIdERIbUcSTUeObUcZEMLJAfHIVETE
yRANTHA DIGIT FIVEdOUReONEdSIXdTHREEeWOdZEROkLETTER AbKAcNAcPAcVIoPHEME JOINERmVE ACCENTa BELOWmTONE MARKk-A
CUTE-GRAVElMACRONkEEK DIALYTIKA TONOSpKORONIShMUSICAL PENTASEMEjTETRASEMEiRISEMEpPERISPOMENIlYPOGEGRAMMENItH
OMOTHETIC ABOVEoOK ABOVEiRNeINFINITYgVERTED BREVEa BELOWjIDGE BELOWmDOUBLE ARCH ABOVEfBELOWzS BELOWiKATAKANA
-HIRAGANA SEMI-VOICED SOUND MARKwVOICED SOUND MARKziVYKA ABOVE LEFTeRIGHTsLATIN LETTER SMALL CAPITAL GbLbMbN
bRwSMALL LETTER Aa WITH DIAERESISpEbLPHAeObVcBaETAeCa CEDILLAjDbEaSHcTHdFaLATTENED OPEN A ABOVEwGbHbIaNSULA
R DbGbRbTjKbLa WITH DOUBLE MIDDLE TILDEzONG SgMbNbOa WITH DIAERESISjLIGHT CENTRALIZATION STROKEzjPbRa BELOWf
ROTUNDAjSaCHWAfTaURNED W BELOWoUa WITH DIAERESISjLIGHT CENTRALIZATION STROKEzjVbWa BELOWhXbZtEFT ANGLE ABOVE
fBELOWkRROW ABOVEfBELOWgHEAD ABOVEfBELOWpHALF RING ABOVEfBELOWnRPOON ABOVEnPARENTHESIS ABOVE LEFTkBELOW LEFT
wRIGHT ARROW ABOVEfBELOWrTACK BELOWlWARDS ARROW OVERLAYnHARPOON WITH BARB DOWNWARDSzlIGATURE LEFT HALFa BELO
WpRIGHT HALFa BELOWwHT CENTRALIZATION STROKE BELOWzhONG DOUBLE SOLIDUS OVERLAYwSOLIDUS OVERLAYoTROKE OVERLAY
oVERTICAL LINE OVERLAYyW LINEiMACRONa BELOWfLEFT HALFa BELOWpRIGHT HALFa BELOWr-ACUTEfBREVEfGRAVElINUS SIG
N BELOWqNOT TILDE ABOVEoUMBER SIGN ABOVErOGONEKa ABOVElLD PERMIC LETTER ANcDOIdNENOEfSIIdZATAvPEN MARK BELOW
oVERLINEiPALATALIZED HOOK BELOWuRENTHESES ABOVEfBELOWfOVERLAYsLUS SIGN ABOVEfBELOWpRETROFLEX HOOK BELOWsVERS
E SOLIDUS OVERLAYqD COMMA ABOVEtIGHT ARROW ABOVEfBELOWgHEAD ABOVEeND DOWN ARROWHEAD BELOWuUP ARROWHEAD BELOW
wBELOWpHALF RING ABOVEfBELOWnRPOON ABOVEnPARENTHESIS ABOVE RIGHTlBELOW RIGHTxTACK BELOWlWARDS HARPOON WITH B
ARB DOWNWARDSzlNG ABOVEfBELOWfOVERLAYmSEAGULL BELOWmHORT SOLIDUS OVERLAYoTROKE OVERLAYoVERTICAL LINE OVERLAY
zbNAKE BELOWkQUARE BELOWeRACKETS ABOVEuTRONG CENTRALIZATION STROKE BELOWziUSPENSION MARKpTHREE DOTS ABOVEpIL
DEa BELOWfLEFT HALF BELOWpOVERLAYhRIGHT HALF BELOWvRIPLE ACUTE ACCENTmDOTdUNDERDOToURNED COMMA ABOVEsUP TAC
K ABOVEfBELOWlWARDS ARROW BELOWsR ABOVEhS ABOVEiVERTICAL LINE ABOVEfBELOWkTILDEoWIDE BRIDGE ABOVEmINVERTED B
RIDGE BELOWyGGLY LINE BELOWrX ABOVEfBELOWg-X BELOWjZIGZAG ABOVEfBELOWtETcMAbERCIAL ATcMINUS SIGNsPASSdLEMENT
gOSITION SYMBOLoRESSIONjNFETTI BALLjOUNDED FACElUSED FACEkGRUENT WITH DOT ABOVEvICAL TAPERkJUNCTIONiSTRUCTIO
N SIGNeWORKERqTAINS AS MEMBERgNORMAL SUBGROUPa OR EQUAL TOzfWITH LONG HORIZONTAL STROKEwOVERBARhVERTICAL BA
R AT END OF HORIZONTAL STROKEzzINUOUS UNDERLINE SYMBOLxOUR INTEGRALmROL KNOBSfSEQUENCE INTRODUCERyVENIENCE S
TOREpOKED RICEhIEbNGfPTIC CAPITAL LETTER AKHMIMIC KHEImLFAeBOHAIRIC KHEInCROSSED SHEIkYPTOGRAMMIC EIEdGANGIA
gNIcSHEIsDALDAeEIcIALECT-P ALEFeHORIeKAPAeNImEIEdFEIcIcGAMMAdNGIAgHATEdORIeIAUDAfKAPAdHEIcIcSIdL-SHAPED HAkA
ULAfMIcNIcOaLD COPTIC AINdDJAdESHdGANGIAgHAaTcEIcORIeOOUdSHEIcIMAmNUBIAN NGIcYIdSHIMAfWAUnOUdPIbSIdROcSAMPIe
HEIcIMAeIMAdOUdTAUcHETHEgUAcVIDAeZATAsOMBINING NI ABOVEiSPIRITUS ASPERfLENISyEPACT DIGIT EIGHTfFIVEdOUReNINE
eONEdSEVENeIXdTHREEeWOjNUMBER EIGHT HUNDREDiYgFIFTYdVE HUNDREDlORTYdUR HUNDREDmNINE HUNDREDiTYgONE HUNDREDlS
EVEN HUNDREDiTYgIX HUNDREDiTYfTENcHIRTYeREE HUNDREDmWENTYeO HUNDREDsTHOUSANDS MARKuFRACTION ONE HALFqULL STO
PjMORPHOLOGICAL DIVIDERvOLD NUBIAN DIRECT QUESTION MARKuFULL STOPjINDIRECT QUESTION MARKwVERSE DIVIDERySMAL
L LETTER AKHMIMIC KHEImLFAeBOHAIRIC KHEInCROSSED SHEIkYPTOGRAMMIC EIEdGANGIAgNIcSHEIsDALDAeEIcIALECT-P ALEFe
HORIeKAPAeNImEIEdFEIcIcGAMMAdNGIAgHATEdORIeIAUDAfKAPAdHEIcIcSIdL-SHAPED HAkAULAfMIcNIcOaLD COPTIC AINdDJAdES
HdGANGIAgHAaTcEIcORIeOOUdSHEIcIMAmNUBIAN NGIcYIdSHIMAfWAUnOUdPIbSIdROcSAMPIeHEIcIMAeIMAdOUdTAUcHETHEgUAcVIDA
eZATAqYMBOL KAIcHI ROgMI ROfPI ROfSHIMA SIMAjTAUROShTAU ROrYLEFT SYMBOLlRIGHT SIGNmRALcNISH VERSE DIVIDERsRE
SPONDS TOmUCH AND LAMPlNTERBOREeSINKgING ROD TENS DIGIT EIGHTfFIVEdOUReNINEeONEdSEVENeIXdTHREEeWOoUNIT DIGI
T EIGHTfFIVEdOUReNINEeONEdSEVENeIXdTHREEeWOyPLE WITH HEARTpWa FACEhRaABcEDIT CARDiSCENT MOONlICKETa BAT AN
D BALLsOCODILEgISSANTgSS MARKeOF JERUSALEMjLORRAINElPATTY WITH LEFT CROSSBARnRIGHT CROSSBARyOMMEEa WITH HALF
-CIRCLE BELOWzfED FLAGSfNEGATIVE SQUARED LATIN CAPITAL LETTER PzoSWORDSjING LANESlWNdUTCHdZEIRO SIGNlYING CA
T FACEiFACEiSTAL BALLlSIcUBE ROOThCUMBERgNEIFORM NUMERIC SIGN EIGHT ASHdDISHeGESH2fSHAR2fUa VARIANT FORMoVAR
IANT FORM USSUa3xLAMITE FIFTYeORTYfONE THIRDjTWO THIRDSsFIVE ASHa TENUiBAN2a VARIANT FORMqURUeDISHeGESH2bUfS
HAR2bUeIXTHS DISHlUa VARIANT FORMsOUR ASHa TENUiBAN2a VARIANT FORMqURUeDISHeGESH2bUfSHAR2bUfUa VARIANT FORMo
VARIANT FORM LIMMUa AbBc4yNIGIDAESHdMINhNE ASHdDISHeGESH2fSHAR2fUa VARIANT FORMoVARIANT FORM ILIMMUa Ac3b4zO
LD ASSYRIAN ONE QUARTERhSIXTHvNE BAN2dURUeEIGHTH ASHjSHE3fGESH2bUfHALF GURiQUARTER ASHdGURlSHARUfTHIRD DISHe
VARIANT FORM AySEVEN ASHdDISHeGESH2fSHAR2fUa VARIANT FORMoVARIANT FORM IMIN AbBc3xHAR2 TIMES GAL PLUS DISHeM
INxIX ASHa TENUiDISHeGESH2fSHAR2fUa VARIANT FORMoVARIANT FORM ASH9vTHREE ASHa TENUiBAN2dURUa VARIANT FORMrDI
SHeGESH2bUfSHAR2a VARIANT FORMoUa VARIANT FORMsVARIANT FORM ESH16c21xWO ASHa TENUiBAN2dURUeESHE3fGESH2bUfSHA
R2bUfTHIRDS DISHeVARIANT FORM AznPUNCTUATION SIGN DIAGONAL COLONfQUADCOLONjTRICOLONrOLD ASSYRIAN WORD DIVIDE
RzVERTICAL COLONzgSIGN Aa TIMES AbBADdGAN2 TENUjHAcIGIdLAGAR GUNUkMUSHeSAGk2bBa GUNUeTIMES ASH2eDUN3 GUNUjGA
LbN2 TENUjHAcIGI GUNUhMINeLAGABfNUNa TENUiSHESHdU2eU PLUS U PLUS Uw2a TIMES AbBALAGfGAN2 TENUjME PLUS ENkSHA
3eTAK4nDa TIMES ESH2mKa TIMES ERIN2fSHITA PLUS GISHxLa TIMES ALcDIM2eGISHeHAcKAD3dIcSHEdUSHkANcEPHeMARa TIME
S KUGdSHEnNa OVER ANhPLUS NAGA OPPOSING AN PLUS NAGAvSQUAREDrTHREE TIMESmSHEePINdRADa TIMES KURmKABeSAL2dH
a KABA TENUjOVER ASH OVER ASHa CROSSING ASH OVER ASH OVER ASHzoTUG2 OVER TUG2 TUG2 OVER TUG2 PAPzrZIDA TENUk
2bGABgBAaDa TIMES DISH TENUrG3cHAR2a TIMES AB2dNIcZAnLa OVER BALjAGdRaA2eIa TIMES AbGARdIGI GUNUqUa CROSSIN
G BUlOVER BU ABcTIMES NA2jUNlLUGa OVER BULUGoRa2eDAa TIMES TAK4lGa KISIM5 TIMES A PLUS MASHkMAReBALAGeIcGA
a PLUS MASHlIaR2dUDdHAcIRa PLUS LUkKAKdLAbUa PLUS MASH2lMdNEcPAP PLUS PAPmSIcTAK4eU2 PLUS GIR2eMASHlSHqTIME
S KURk3cMbRaA3b4eIaBbMa TIMES IGIdSHEdU U Um2a TIMES UDlNa KASKAL U GUNU DISHuSHa PLUS SHUmUa GUNUeOVER DUhS
HESHIGiBa TIMES ESH2eSHEk2cGa TIMES ANSHEeSHa AT LEFTlDINcUNdERIN2fGAbIaR2 GUNUhSHeHAbIcIGI GUNUiKASKALfURbS
HU2a PLUS KASKALsLAK-020fMa TIMES KURmUH PLUS GISHnMASHdEScIcNIcPIcSHEcI GUNUoUDdHbNa3a GUNUa GUNUl4cR2eEa O
VER E NUN OVER NUNtTIMES PAPk2a TIMES A PLUS HA PLUS DArGARdKURdMIcPAPdSALcHEdUjDINdGIRdLbNa CROSSING ENlOPP
OSING ENlSQUAREDhTIMES GAN2a TENUjMEkRENcIN2a XgSH2a CROSSING ESH2rZENa SHESHIG TIMES ASHdHIcIGI GUNUiLAaLdM
EaSdSUqTIMES Aa PLUS LALa TIMES LALtNcBADdDUN3 GUNUa GUNUoGUDdHAa GUNUhIGI GUNUiKASKALa SQUAREDnU3dLAaL TIME
S LALmIbUcSHEcUcU2bDnGAa GUNUf2a OVER GA2iTIMES A PLUS DA PLUS HAkHAcIGIjB2 TENU PLUS TABqNa PLUS KAK PLUS A
rSHa2a PLUS GALnBADbHAR2eR PLUS RAkURa PLUS RAlDAbIaM GUNUeTIMES SHEmUBbG TIMES IGI GUNUiKASKALqELa PLUS LAj
Na TIMES GAN2 TENUrRENeGAaN2 TENUhRa PLUS DIcNEkIa4a PLUS AiR2 PLUS SUmHA PLUS AbLU PLUS ESH2sLa PLUS LAkI P
LUS LIjUB2eIGI GUNUhSH PLUS HU PLUS ASHuKAKbSKALfIDa PLUS LALlU3 PLUS ANjSHU2 PLUS KASKALsLAaMa TIMES KURmUH
dME PLUS ENjIbUSHeNEa PLUS E2cGIjUNa OVER NUNmPAcSALbRcHEa PLUS TURkIDbMdUMdTAK4eUaDa PLUS DUkZIZ2mBAa CROSS
ING GABAnROTATED NINETY DEGREESzDa OVER GAD GAR OVER GARxLa GAD OVER GAD GAR OVER GARzbAMdMbNa2a CROSSING GA
N2nOVER GAN2jTENUhRa3cSHANfE22cSHTINa TIMES KURdUoIa CROSSING GIlTIMES EbUi4a CROSSING GI4mOVER GI4kDIMdGbR2
a GUNUg3a TIMES A PLUS IGIkGAN2 TENUjIGIdLU PLUS IGIlPAlSALcHa CROSSING GISHnTENUdIMES BADdGISH CROSSING GIS
HsTAK4oUa CROSSING GUm2a GUNUeTIMES IGI GUNUiKAKa TIMES IGI GUNUsNUNdSAL PLUS TUG2vDa OVER GUD LUGALoPLUS GI
SH TIMES TAK4uTIMES A PLUS KURkKURlLbMa TIMES SHElRa7bUNbSHgHAa GUNUeTENUa GUNUkLcIa TIMES ASHa OVER HI TIME
S ASHs2eBADdDISHeGADdKINdNUNdSHEdUjUaB2a TIMES ANcHALdKASKALgLISHeUDlL2cSHeIa AcBbDIMa OVER IDIM BURdSQUARED
vGaIa DIBdGUNUeOVER IGI SHIR OVER SHIR UD OVER UDzjRIfLa TIMES GAN2 TENUq2cMa CROSSING IMlOPPOSING IMlSQUARE
DhTIMES TAK4lINdNbRbSHdKAa TIMES AaDa PLUS KU3kNSHEeSH2b3eBADbLAGdRcIbUcERIN2eSH2eGAaLbN2 TENUhRa PLUS SHA
3 PLUS AtIaR2cSHa CROSSING GISHnPLUS SARmUaDbR7eHI TIMES ASH2nIGIcMcKAaKcIaDdLIbUaMdMEa PLUS DUcGIcTEjIa PLU
S NUNUZnNEbUNdPAbIcRUcSAaRcHAbEbIDcUaLdIGcUHURfTARcUcUa U Ue2bDbMUM TIMES PAmRa2cSHdZIj2a CROSSING KA2oBbD2b
3b4b5a OVER KAD5mKa TIMES IGI GUNUqLa CROSSING KALmTIMES BADlM2b4cP ELAMITEjSKALa LAGAB TIMES U OVER LAGAB T
IMES UzhOVER KASKAL LAGAB TIMES U OVER LAGAB TIMES UzzESH2eIa TIMES BADdUaDjDbNbSALcHbIM5a OVER KISIM5rUa OV
ER HI TIMES ASH2 KU OVER HI TIMES ASH2zq3b4a VARIANT FORMo7bLa GUNUgNbRa OPPOSING KURoSHU2fWU318gLAaGABa SQU
AREDhTIMES Aa PLUS DA PLUS HAkGARdLALjLbNbSH ZIDA TENUnBADcIcDARdENcGAaRcIbUDa PLUS GUDmHAaLcI TIMES NUNmIG
I GUNUhMa PLUS HAcLUkKIaNcU3bLa PLUS HI PLUS AsLAGABeISHdUaLdMEa PLUS ENjUSHeNEcSHE PLUS SUMkITA PLUS GISH P
LUS ERIN2kTENUsU2a PLUS SHU2nUMdTAGbK4dE PLUS A PLUS SU PLUS NAzUa PLUS AbU PLUS Uo2 PLUS ASHkDbSHdZU OVER Z
UsRa GUNUa OVER LAGAR GUNU SHEyTIMES SHEa PLUS SUMwHSHUeK-003c21b5c30c50b1c62c79 OVER LAK-079 GUNUu80b1 OVE
R LAK-081p92d130c42d210b9c20b5b8c38c65b6d343b7b8c83b4c90d441b9a TIMES GUcIGIdPAP PLUS LU3dPAP PLUS LU3vU2 PL
US BAt50b7c70c83c90b2b3b5d550d608c17a TIMES ASHdBADdDUN3 GUNU GUNUoKU3dLAcTARcEcU2bDbRUDAo36c48a TIMES DUBdG
AcIGIa GUNUiNIcPAP PLUS PAP PLUS LU3vSHESH PLUS KInUDbRUDAp724c49fLa TIMES LALlMa TIMES KURa PLUS RUuIaLbMMU
2eSHdUa TIMES BADk2a CROSSING LU2mGUNU TIMES ASHoOPPOSING LU2mSHESHIGa TIMES BADqQUAREDhTENUdIMES ALcBADdDIS
HeESH2a PLUS LALiTENUjGAN2 TENUjHALcI TIMES BADmIMcKAD2b3a PLUS ASHmIcLA PLUS ASHjGABfME PLUS ENkNEbUcPAPa P
LUS PAP PLUS LU3vSHUcI PLUS ASHjK2 PLUS BUmTAK4dUG2m3bGALa OPPOSING LUGALnVER LUGALkSHESHIGlHbLbMa OVER LUM
a GAR OVER GARzMAa GUNUeTIMES TAK4l2bHbRbSHa2eEaSaHdIa PLUS ZA7jNcUa OVER MUiGa GUNUgNSUBeRGU2eSHa CROSSIN
G MUSHnOVER MUSHa TIMES A PLUS NAjGAcKAKtTIMES AbKURdZAj3a GUNUeTIMES Aa PLUS DIjDIcZAoNAa2b4bGAa INVERTEDiO
PPOSING NAGAnTIMES SHU TENUpRdMa NUTILLUi2dEa SHESHIGhTIMES AbUDkIa TIMES Ei2bMa TIMES GAN2 TENUhR PLUS GAN
2 TENUzbNa9bDA2a TIMES ANbSHa PLUS ASHmBALdDIM GUNUiGIaSHdUDbLdHIcKESH2fLAK-050hMASHdE PLUS GAN2 TENUrNEbUNd
PAP PLUS PAPmSHEa PLUS A ANdSHa PLUS ASHvUa PLUS Uh2 PLUS ASHkRUDAeSHoSAGeUa11a OVER NU11 BUR OVER BURwROTAT
ED NINETY DEGREESwTENUhNa CROSSING NUNa LAGAR OVER LAGARzeLAGAR TIMES GARdMASHeSALa OVER NUN LAGAR TIMES SAL
zdUSHpOVER NUNiTENUfUZa AB2 TIMES ASHGABgBIcDUGdGUDdIGI GUNUiKAD3eLAcNEcSILA3fU2mKISIM5 TIMES BIa UxPAaDbNbP
cESH2a ASTERISKnIa CROSSING PIlTIMES AaBcBIbUcEbIaBcUa2jR2bIGa OPPOSING PIRIGoTIMES KALdUDcZAoRAaBcIbUcSAaG
a GUNUa TIMES HAnNUTILLUhOVER SAGiTIMES AbDUaBdENcHAcIGI GUNUiKAKcURdLUMdMIcNUNdSALcHE AT LEFTjIDeTABbK4eU2b
BbMbRbSHlLa LAGAB TIMES ASH2sNGA2eRcHAa3a TIMES AbBADdGISHeNEcSHU2eTURdUa PLUS Aq6a TENUgB6cR2dEa HUcOVER SH
Ea GAD OVER GAD GAR OVER GARzTAB OVER TAB GAR OVER GARzjPLUS HUB2eNAM2eSARjG9cNbSHa2bLAMgIDa TIMES AbIMkMa T
IMES AbBALcULUGfDINdGARdIGIa GUNUiKUSHU2gLULdMUGdSALlNIGdRa OVER SHIR BUR OVER BURwTENUgTAdUa OVER INVERTE
D SHUs2a PLUS DUG TIMES NImE2 TIMES ANsBURfIa GUNUeTIMES TAK4lGa4a OVER SIG4 SHU2rK2cLA3eUa OVER SUiDa2cHURd
MaASHeRa9eTAa ASTERISKiGUNUeTIMES HIcMIjBa OVER TAB NI OVER NI DISH OVER DISHzjSQUAREDjGa TIMES BIcGUDdSHEbU
dTUG2eUDkK4a PLUS SAGlRcEa GUNUgIa TENUf2bLbRa OVER TIRa GAD OVER GAD GAR OVER GARzjTIMES TAK4nUaG2cKbMa TIM
ES GAN2 TENUjTHREE DISHsRa OVER TUR ZA OVER ZAxUa GUDdOVER U PA OVER PA GAR OVER GARxSUR OVER SURmU REVERSE
D OVER U REVERSEDziUa Ue2bBbDa GUNUeKUSHU2gSHESHIGa TIMES BADrTIMES BADdMIcU PLUS U PLUS Ua GUNUzcUGdMa TIME
S LAGABfMEa PLUS DAkSHA3eUiBINdUMa TIMES KASKALgPAmNa GUNUgRa CROSSING URlSHESHIGi2a INVERTEDiTIMES A PLUS H
AcNAiLcHAcNUNdU2a PLUS ASHdBIjDk4bIa3cUa TIMES AaSHGABgBARdDARA3eUNdGAaLbN2 TENUhRcUcHAcIGIcMbSHdKIcLAK-668g
U3bMdMINdPAcSHEcIG4eTUcU PLUS GUDjDbRUDAmDAa TIMES UmSHa TIMES AbKUaRdTAK4l2bUMXdXdTUKIeZ3a TIMES KASKALoUdZ
Aa SQUARED TIMES KURrTENUf7bGbMXdE2cIa OVER ZIi3bBa KABA TENUlGbZ2dUa OVER ZU PLUS SARr5a TIMES AbTHREE DIS
H TENUxBURdMqP ON BLACK SQUAREpWITH STRAWlCAKEeIDOeRLING STONEjY BRACKET EXTENSIONrLOGICAL ANDdORiOPhRENCY E
XCHANGEiSIGNjY AND RICElVED STEM PARAGRAPH SIGN ORNAMENTziSTARDdOMSfT OF MEATkYCLONEfLINDRICITYkPRIOT SYLLAB
LE AbEbIbJAbOcKAbEbIbObUcLAbEbIbObUcMAbEbIbObUcNAbEbIbObUcObPAbEbIbObUcRAbEbIbObUcSAbEbIbObUcTAbEbIbObUcUbWA
bEbIbOcXAbEcZAbOpO-MINOAN SIGN CM001b2b4b5b6b7b8b9c10b1b2aBc3b5b7b9c21b3b4b5b6b7b8b9c30b3b4b5b6b7b8b9c40b1b4
b6b7b9c50b1b2b3b4b5b6b8b9c60b1b2b3b4b6b7b8b9c70b1b2b3b4b5aBc6b8b9c80b1b2b3b4b5b6b7b8b9c90b1b2b4b5b6b7b8b9d10
0b1b2b3b4b5b7b8b9c10b2b4d301b2vRILLIC CAPITAL LETTER Aa WITH BREVEfDIAERESISpBKHASIAN CHEa WITH DESCENDERsDZ
EdHAlLEUT KAiBARRED Oa WITH DIAERESISvSHKIR KAjEbIG YUSfNOCULAR OkLENDED YUSkROAD OMEGAkYELORUSSIAN-UKRAINIA
N IyCCHEdHEa WITH DESCENDERiIAERESISjVERTICAL STROKExLOSED LITTLE YUSqROSSED OjDCHEdEbJEaRVeOUBLE MONOCULA
R OlOhWEcZEaLOdHEcWEcZEbHEfEa WITH DIAERESISpFbLa WITH DESCENDERjHOOKeMIDDLE HOOKlTAILlMa WITH TAILlNa WIT
H DESCENDERjHOOKeLEFT HOOKjMIDDLE HOOKlTAILlRa WITH TICKlSa WITH DESCENDERrFITAeGHEa WITH DESCENDERjMIDDLE H
OOKlSTROKEa AND HOOKpUPTURNoJEdHAa WITH DESCENDERjHOOKeSTROKEmRD SIGNiWEdIa WITH DIAERESISjGRAVEfMACRONmEa W
ITH BREVEfGRAVEmOaTAbIFIED AbBIG YUShCLOSED LITTLE YUSrEbLITTLE YUSkYATlZHITSAa WITH DOUBLE GRAVE ACCENTzhJE
cKAa WITH DESCENDERjHOOKeSTROKEgVERTICAL STROKEwHAKASSIAN CHEnJEcOMI DEbJEcZJEeLJEdNJEdSJEdTJEdZJEgPPAeSIdLH
AcITTLE YUSjJEdMONOCULAR OhGRAPH UKmNEUTRAL YERkJEdOa WITH DIAERESISpMEGAa WITH TITLOpTcPEa WITH DESCENDERjM
IDDLE HOOKsSIdQAcREVERSED DZEdTSEdYUcZEkHAcOUND OMEGAlSCHWAa WITH DIAERESIStEMISOFT SIGNmHAbCHAdHAa WITH DES
CENDERrORT Ia WITH TAILlUfWEdOFT DEcELbMcSIGNiTRAIGHT Ua WITH STROKEwTCHEdEa WITH DESCENDERjMIDDLE HOOKsSEbH
EcSEcWEdWEdUa WITH DIAERESISiOUBLE ACUTEmMACRONmKaRAINIAN IEmVEcWEcYAaEbTcERUa WITH BACK YERiDIAERESISsIbNbU
cZEa WITH DESCENDERiIAERESISpMLYAfHEa WITH BREVEfDESCENDERiIAERESISqWEkIGATURE A IEeEN GHEgTE TSExKAVYKAgLET
TER MULTIOCULAR OnPALOCHKAiSMALL CAPITAL ELxPAYEROKhSMALL LETTER Aa WITH BREVEfDIAERESISpBKHASIAN CHEa WIT
H DESCENDERsDZEdHAlLEUT KAiBARRED Oa WITH DIAERESISvSHKIR KAjEbIG YUSfNOCULAR OkLENDED YUSkROAD OMEGAkYELORU
SSIAN-UKRAINIAN IyCCHEdHEa WITH DESCENDERiIAERESISjVERTICAL STROKExLOSED LITTLE YUSqROSSED OjDCHEdEbJEaRVeOU
BLE MONOCULAR OlOhWEcZEaLOdHEcWEcZEbHEfEa WITH DIAERESISpFbLa WITH DESCENDERjHOOKeMIDDLE HOOKlTAILlMa WITH T
AILlNa WITH DESCENDERjHOOKeLEFT HOOKjMIDDLE HOOKlTAILlRa WITH TICKlSa WITH DESCENDERrFITAeGHEa WITH DESCENDE
RjMIDDLE HOOKlSTROKEa AND HOOKpUPTURNoJEdHAa WITH DESCENDERjHOOKeSTROKEmRD SIGNiWEdIa WITH DIAERESISjGRAVEfM
ACRONmEa WITH BREVEfGRAVEmOaTAbIFIED AbBIG YUShCLOSED LITTLE YUSrEbLITTLE YUSkYATlZHITSAa WITH DOUBLE GRAV
E ACCENTzhJEcKAa WITH DESCENDERjHOOKeSTROKEgVERTICAL STROKEwHAKASSIAN CHEnJEcOMI DEbJEcZJEeLJEdNJEdSJEdTJEdZ
JEgPPAeSIdLHAcITTLE YUSjJEcONG-LEGGED DEoMONOCULAR OhGRAPH UKmNARROW OhEUTRAL YERkJEdOa WITH DIAERESISpMEGA
a WITH TITLOpTcPALOCHKAhEa WITH DESCENDERjMIDDLE HOOKsSIdQAcREVERSED DZEdTSEdYUcZEkHAcOUND OMEGAgED VEkSCHWA
a WITH DIAERESIStEMISOFT SIGNmHAbCHAdHAa WITH DESCENDERrORT Ia WITH TAILlUfWEdOFT DEcELbMcSIGNiTRAIGHT Ua WI
TH STROKEwTALL HARD SIGNjTEcYAThCHEdEa WITH DESCENDERjMIDDLE HOOKsHREE-LEGGED TEoSEbHEcSEcWEdWEdUa WITH DIAE
RESISiOUBLE ACUTEmMACRONmKaRAINIAN IElNBLENDED UKmVEcWEbIDE EShYAaEbTcERUa WITH BACK YERiDIAERESISsIbNbUcZE
a WITH DESCENDERiIAERESISpMLYAfHEa WITH BREVEfDESCENDERiIAERESISqWEkIGATURE A IEeEN GHEgTE TSEvTHOUSANDS SIG
N"

/-- The names that start with D. -/
def namesD : String := "aDAGGERa KNIFEfWITH LEFT GUARDkRIGHT GUARDvLET SYMBOLkNCERdGOdRK SHADEeUNGLASSESnSH SYMBOLgWITH LEFT UPTURNr
ED LOW LINEiOVERLINEiTRIANGLE-HEADED RIGHTWARDS ARROWzmTA LINK ESCAPEpC1b2b3b4bScEAF PERSONjCIDUOUS TREEkMA
L EXPONENT SYMBOLpSEPARATOR KEY SYMBOLzREASE FONT SIZE SYMBOLxERcGREE CELSIUShFAHRENHEITkSIGNjLaETEdIVERY TR
UCKlTA EQUAL TOmNTISTRY SYMBOL LIGHT DOWN AND HORIZONTALa WITH CIRCLEgTRIANGLEiWAVEzeUP AND HORIZONTALa WIT
H CIRCLEgTRIANGLEiWAVEzcVERTICAL AND BOTTOM LEFTeRIGHTmTOP LEFTeRIGHTjWAVEiWITH CIRCLEgTRIANGLEzsPARTMENT ST
OREoRELICT HOUSE BUILDINGvSCENDING NODEmERET CAPITAL LETTER AYcBEEdCHEEeDEEdEFbLbMbNaGcRbSaHcTHcWcGAYdHbJEEd
KAYdLONG AaHcEbIbOaOhOIbWcPEEdSHORT AaHcEbIbOaOiTEEcHEEeVEEdWUcYEEdZEEcHEEtSMALL LETTER AYcBEEdCHEEeDEEdEFbL
bMbNaGcRbSaHcTHcWcGAYdHbJEEdKAYdLONG AaHcEbIbOaOhOIbWcPEEdSHORT AaHcEbIbOaOiTEEcHEEeVEEdWUcYEEdZEEcHEEuTa IS
LANDkKTOP COMPUTERiWINDOWmVANAGARI ABBREVIATION SIGNqCUTE ACCENTmCARETfDANDAeIGIT EIGHTfFIVEdOUReNINEeONEdSE
VENeIXdTHREEeWOdZEROjOUBLE DANDAmGAP FILLERjRAVE ACCENTmHEADSTROKEkJAIN OMhLETTER AaAbIbUbWbYcBAbBAcHAdCAaND
RA AbEbOhHAdDAbDAbDAbHAdHAdHAdEbFAcGAbGAcHAbHAdLOTTAL STOPmHAbEAVY YAiIaIcJAbHAcJAdKAbHAbHAeLAbLAbLAeMAaRWAR
I DDAlNAbGAcNAbNAdYAdOaEbOEdPAbHAdQAcRAbHAcRAdSAbHAbORT AbEbOgSAdTAbHAcTAbHAeUaEbUaEdVAbOCALIC LaLcRaRkYAbYA
dZAbHAkOMcSIGN ANUSVARAhVAGRAHAiCANDRABINDUa AVAGRAHAiTHREEeWOdVIRAMAsDOUBLE CANDRABINDU VIRAMAzHIGH SPACIN
G DOTqINVERTED CANDRABINDUuNUKTAfPUSHPIKAiSIDDHAMgPACING CANDRABINDUtVIRAMAeSARGAlTRESS SIGN ANUDATTAiUDATTA
sVOWEL SIGN AAbIbUbWbYcCANDRA EbLONG EgOiEbIaIcOaEbOEdPRISHTHAMATRA EpSHORT EbOhUaEbUaEdVOCALIC LaLcRaRzeIC
E CONTROL FOUReONEdSTRINGgTHREEeWOrIAERESISgMETER SIGNjOND OPERATORiSHAPE WITH A DOT INSIDExTARGETgWITH BOTT
OM HALF BLACKrLEFT HALF BLACKpRIGHT HALF BLACKqTOP HALF BLACKzE FACE-1b2b3b4b5b6hSEL LOCOMOTIVEpFFERENCE BET
WEENqGIT EIGHTa COMMAfFULL STOPpFIVEa COMMAfFULL STOPnOURa COMMAfFULL STOPoNINEa COMMAfFULL STOPoONEa COMMAf
FULL STOPnSEVENa COMMAfFULL STOPoIXa COMMAfFULL STOPnTHREEa COMMAfFULL STOPoWOa COMMAfFULL STOPnZEROa COMMAf
FULL STOPrRAM FOR EARTHaLY HEAVENfUMANnGREATER YANGdINlHEAVENLY EARTHnUMAN EARTHlLESSER YANGdINtMENSION ORIG
INoNGBAT CIRCLED SANS-SERIF DIGIT EIGHTfFIVEdOUReNINEeONEdSEVENeIXdTHREEeWOdZEROkNUMBER TENzeNEGATIVE CIRCLE
D DIGIT EIGHTfFIVEdOUReNINEeONEdSEVENeIXdTHREEeWOjNUMBER TENkSANS-SERIF DIGIT EIGHTfFIVEdOUReNINEeONEdSEVENe
IXdTHREEeWOdZEROkNUMBER TENztRECT CURRENT SYMBOL FORM TWOxHITiSABLED CARiPPOINTED BUT RELIEVED FACErFACEoCON
TINUOUS UNDERLINE SYMBOLzcGUISED FACEmTTO MARKiVES AKURU DIGIT EIGHTfFIVEdOUReNINEeONEdSEVENeIXdTHREEeWOdZER
OjOUBLE DANDAmEND OF TEXT MARKqGAP FILLERkINITIAL RAkLETTER AaAcBAbHAdCAbHAdDAbDAbHAdHAdEbGAbHAdHAcIaIcJAcKA
bHAdLAbLAdMAcNAbGAcNAcYAdObPAbHAdRAcSAbHAcSAdTAbHAcTAdUaUcVAcYAbYAdZAjMEDIAL RAcYAjPREFIXED NASAL SIGNtSIG
N ANUSVARAiCANDRABINDUlHALANTAhNUKTAkVIRAMAfOWEL SIGN AAbIcEbIaIcObUaUwIDESdNG MASKhSION SIGNdLASHfTIMESlORC
E SYMBOLmYA LAMPhZZY FACEeSYMBOLlLEcNA DOUBLE HELIXpO NOT LITTER SYMBOLsCUMENTa WITH PICTUREhTEXTa AND PICTU
REzdDOcES NOT CONTAIN AS MEMBERgNORMAL SUBGROUPa OR EQUALzkDIVIDEa WITH REVERSED NEGATION SLASHzkFORCEfPRECE
DEa OR EQUALoOVEfSUCCEEDa OR EQUALxGa FACEfRA ABBREVIATION SIGNrLETTER AaAbIbUcBAbHAdCAbHAdDAbDAbHAdHAdEbGAb
HAdHAcIaIcJAbHAdKAbHAdLAcMAcNAbGAcNAcYAdObPAbHAdRAbRAdSAbHAcSAdTAbHAcTAbHAeUaUcVAcYAjSIGN ANUSVARAiNUKTAfVIR
AMAeSARGAmVOWEL SIGN AAbIbUcEbIaIcObUaUcVOCALIC RaRzLLAR SIGNiPHINfMINO TILE HORIZONTAL BACKf-00-00b1b2b3b4b
5b6e1-00b1b2b3b4b5b6e2-00b1b2b3b4b5b6e3-00b1b2b3b4b5b6e4-00b1b2b3b4b5b6e5-00b1b2b3b4b5b6e6-00b1b2b3b4b5b6qVE
RTICAL BACKf-00-00b1b2b3b4b5b6e1-00b1b2b3b4b5b6e2-00b1b2b3b4b5b6e3-00b1b2b3b4b5b6e4-00b1b2b3b4b5b6e5-00b1b2b
3b4b5b6e6-00b1b2b3b4b5b6yNG SIGNhORcT ABOVEfMINUSfOPERATORiPLUSfTED CIRCLEfROSSfFENCEfLINE FACEjOBELOSgRIGHT
-POINTING ANGLEuSOLIDUSgQUAREgTRANSPOSITION MARKERzUBLE ACUTE ACCENTmCIRCLED DIGIT EIGHTfFIVEdOUReNINEeONEdS
EVENeIXdTHREEeWOjNUMBER TENrOLON EQUALkURLY LOOPkDAGGERfOWN TACKjEXCLAMATION MARKqHIGH-REVERSED-9 QUOTATIO
N MARKzeYPHENgINTEGRALeRSECTIONmLEFT ARC GREATER-THAN BRACKETzdOGICAL ANDdORiW LINEf-9 QUOTATION MARKqREVERS
ED-9 QUOTATION MARKzeNESTED GREATER-THANmLESS-THANa WITH UNDERBARzfOBLIQUE HYPHENoPLUSdRECEDESgIMEa QUOTATIO
N MARKuQUESTION MARKnRIGHT ARC LESS-THAN BRACKETzcSOLIDUS OPERATORpQUARE INTERSECTIONmUNIONlTACKED COMMAlROK
E NOT SIGNoUBSETeCCEEDSgPERSETgSPENSION MARKpUNIONeP TACKhVERTICAL BARa DOUBLE LEFT TURNSTILEoRIGHT TURNSTIL
EwLEFT TURNSTILEsLINEnWAVY OVERLINEo-ENDED MULTIMAPoLINE EQUAL TO OR GREATER-THANmLESS-THANvSLANTED EQUAL T
O OR GREATER-THANmLESS-THANvGREATER-THAN OR EQUAL TOyLESS-THAN OR EQUAL TOzjSTRUCK CAPITAL CbGAMMAfHbNbPaIcQ
bRbZjITALIC CAPITAL DjSMALL DbEbIbJoN-ARY SUMMATIONpSMALL GAMMAfPIqD FEMALE SIGNlMALE SIGNjSYMBOLlGHNUTgVE O
F PEACElWN ARROWHEADjFISH TAILjRIGHT DIAGONAL ELLIPSISxTACKa WITH CIRCLE BELOWx-POINTING RED TRIANGLEmSMAL
L RED TRIANGLEsTRIANGLE WITH LEFT HALF BLACKpRIGHT HALF BLACKzpWARD FACING HOOKa WITH DOTnNOTCHED HOOKa WIT
H DOTzeS ANCORAfRROWa AND RIGHT ONE EIGHTH BLOCKzbFROM BARiLEFTWARDS OF UPWARDS ARROWzbTO BARgWITH CORNER LE
FTWARDSqDOUBLE STROKEnEQUILATERAL ARROWHEADvHORIZONTAL STROKErLARGE TRIANGLE ARROWHEADyMEDIUM TRIANGLE ARROW
HEADzNOTCHED TAILmSMALL EQUILATERAL ARROWHEADvTRIANGLE ARROWHEADyTIP LEFTWARDSjRIGHTWARDSzBLACK ARROWfCIRCLE
D WHITE ARROWzCOMPRESSED ARROWqDASHED ARROWlOUBLE ARROWmFINGER-POST ARROWrHARPOON WITH BARB LEFT BESIDE DOWN
WARDS HARPOON WITH BARB RIGHTziUPWARDS HARPOON WITH BARB RIGHTznFROM BARiTO BARhWARDSjRIGHT FROM BARiTO BARh
WARDSzcEAVY ARROWfCOMPRESSED ARROWwPAIRED ARROWSnQUADRUPLE ARROWpROCKETgSANS-SERIF ARROWpQUARED ARROWnTRIANG
LE ARROWHEADk-HEADED ARROWa LEFTWARDS OF UPWARDS TRIANGLE-HEADED ARROWzrTO BARgWITH BOLD SHAFTkDOUBLE HORIZO
NTAL STROKEyHEAVY SHAFTlLONG TIP LEFTWARDSjRIGHTWARDStMEDIUM SHAFTmNARROW SHAFTmVERY HEAVY SHAFTzcDASHED ARR
OWmPAIRED ARROWSnZIGZAG ARROWzPLE ARROWlWO HEADED ARROWn-HEADED ARROW WITH TRIANGLE ARROWHEADSzqWHITE ARROW
a WITHIN TRIANGLE ARROWHEADzmZIGZAG ARROWvRACHMA SIGNjFTING POINT RIGHTWARDS ARROWzdGONa FACEjESSdIVE SLOW S
IGNnOMEDARY CAMELmOLING FACEkP OF BLOODjLETfUM WITH DRUMSTICKStUCKcMPLINGgPLOYAN AFFIX ATTACHED E HOOKgI HOO
KgLEFT-TO-RIGHT SECANTuSECANTgTAILcNGENTa HOOKvHIGH ACUTEfCIRCLEgDOTdGRAVEfLINEdONG GRAVEkTIGHT ACUTElVERTIC
ALa SECANTpWAVEjLEFT HORIZONTAL SECANTvOW ACUTEeRROWfCIRCLEgDOTdGRAVEfLINEdONG GRAVEkTIGHT ACUTElVERTICALa S
ECANTpWAVEiMID HORIZONTAL SECANTrVERTICAL SECANTtRIGHT HORIZONTAL SECANTzeDOUBLE MARKlLETTER AaOUdBbDa ScHcE
aEbUcFa NdGa R SfHaLcIaEcJa Ma SdNa SdSa WITH DOTkWITH DOTaS INSIDE AND ABOVEzdKa MbR SeKcLaHbONG IbUgMa N
a SdSbWITH DOTkNa Ma SdSbWITH DOTjASAL AbIbObUhOaAbOHcUbWcPa NcERNIN AMbNjRa ScHbOMANIAN IbUkSa Ja SdKa RdMb
NbPa RdSbTa RdWITH DOTa BELOWpHORT IgLOAN ANcDHcEEbHbNcJbONbWcUhTa R SdScHcUa NcHbIcVaOCALIC MjWa RcAbEIcHbI
bOaWdXaWcYEjPUNCTUATION CHINOOK FULL STOPzeSIGN O WITH CROSSrTHICK LETTER SELECTORzeVD"

/-- The names that start with E. -/
def namesE : String := "aE-MAIL SYMBOLmAGLEdRa OF MAIZEfRICEhWITH HEARING AIDrTHa GLOBE AMERICAShSIA-AUSTRALIAoEUROPE-AFRICAsROUNDkS
T SYRIAC CROSSqDITORIAL CORONISqGGbYPTIAN HIEROGLYPH A001b2b3b4b5aAc6aAbBc7b8b9c10b1b2b3b4aAc5b6b7aAc8b9c20b
1b2b3b4b5b6b7b8b9c30b1b2aAc3b4b5b6b7b8b9c40aAc1b2aAc3aAc4b5aAc6b7b8b9c50b1b2b3b4b5b6b7b8b9c60b1b2b3b4b5b6b7b
8b9c70dA001b2b3b4b5b6b7aAbBc8b9c10b1b2b3b4b5b6b7b8b9c20b1b2b3b4b5b6b7b8b9c30b1b2fB001b2b3b4b5aAc6b7b8b9dEGI
N SEGMENTnC001b2aAbBbCc3b4b5b6b7b8b9c10aAc1b2b3b4b5b6b7b8b9c20b1b2b3b4eD001b2b3b4b5b6b7b8aAc9c10b1b2b3b4b5b6
b7b8b9c20b1b2b3b4b5b6b7aAc8b9c30b1aAc2b3b4aAc5b6b7b8b9c40b1b2b3b4b5b6aAc7b8aAc9c50aAbBbCbDbEbFbGbHbIc1b2aAc3
b4aAc5b6b7b8b9c60b1b2b3b4b5b6b7aAbBbCbDbEbFbGbHfE001b2b3b4b5b6b7b8aAc9aAd10b1b2b3b4b5b6aAc7aAc8b9c20aAc1b2b3
b4b5b6b7b8aAc9c30b1b2b3b4aAc6b7b8dND SEGMENTlF001aAc2b3b4b5b6b7b8b9c10b1b2b3aAc4b5b6b7b8b9c20b1aAc2b3b4b5b6b
7b8b9c30b1aAc2b3b4b5b6b7aAc8aAc9c40b1b2b3b4b5aAc6aAc7aAc8b9c50b1aAbBbCc2b3eG001b2b3b4b5b6aAc7aAbBc8b9c10b1aA
c2b3b4b5b6b7b8b9c20aAc1b2b3b4b5b6aAc7b8b9c30b1b2b3b4b5b6aAc7aAc8b9c40b1b2b3aAc4b5aAc6b7b8b9c50b1b2b3b4eH001b
2b3b4b5b6aAc7b8dORIZONTAL JOINERrI001b2b3b4b5aAc6b7b8b9aAd10aAc1aAc2b3b4b5dNSERT AT BOTTOM ENDdSTARTmTOP END
dSTARTtK001b2b3b4b5b6b7b8eL001b2aAc3b4b5b6aAc7b8eM001aAbBc2b3aAc4b5b6b7b8b9c10aAc1b2aAbBbCbDbEbFbGbHc3b4b5aA
c6aAc7aAc8b9c20b1b2aAc3b4aAc5b6b7b8aAc9c30b1aAc2b3aAbBc4b5b6b7b8b9c40aAc1b2b3b4eN001b2b3b4b5b6b7b8b9c10b1b2b
3b4b5b6b7b8aAbBc9c20b1b2b3b4b5aAc6b7b8b9c30b1b2b3aAc4aAc5aAc6b7aAc8b9c40b1b2dL001b2b3b4b5aAc6b7b8b9c10b1b2b3
b4b5b6b7aAc8b9c20eU001b2b3b4b5b6b7b8b9c10aAc1aAc2b3b4b5b6b7b8aAc9c20b1b2aAgO001aAc2b3b4b5aAc6aAbBbCbDbEbFc7b
8b9c10aAbBbCc1b2b3b4b5b6b7b8b9aAd20aAc1b2b3b4aAc5aAc6b7b8b9aAd30aAc1b2b3aAc4b5b6aAbBbCbDc7b8b9c40b1b2b3b4b5b
6b7b8b9c50aAbBc1dVERLAY MIDDLEoP001aAc2b3aAc4b5b6b7b8b9c10b1eQ001b2b3b4b5b6b7eR001b2aAc3aAbBc4b5b6b7b8b9c10a
Ac1b2b3b4b5b6aAc7b8b9c20b1b2b3b4b5b6b7b8b9eS001b2aAc3b4b5b6aAc7b8b9c10b1b2b3b4aAbBc5b6b7aAc8b9c20b1b2b3b4b5b
6aAbBc7b8b9c30b1b2b3b4b5aAc6b7b8b9c40b1b2b3b4b5b6eT001b2b3aAc4b5b6b7aAc8aAc9aAd10b1aAc2b3b4b5b6aAc7b8b9c20b1
b2b3b4b5b6b7b8b9c30b1b2aAc3aAc4b5b6eU001b2b3b4b5b6aAbBc7b8b9c10b1b2b3b4b5b6b7b8b9c20b1b2b3aAc4b5b6b7b8b9aAd3
0b1b2aAc3b4b5b6b7b8b9c40b1b2eV001aAbBbCbDbEbFbGbHbIc2aAc3b4b5b6b7aAbBc8b9c10b1aAbBbCc2aAbBc3b4b5b6b7b8b9c20a
AbBbCbDbEbFbGbHbIbJbKbLc1b2b3aAc4b5b6b7b8aAc9aAd30aAc1aAc2b3aAc4b5b6b7aAc8b9c40aAeERTICAL JOINERpW001b2b3aAc
4b5b6b7b8b9aAd10aAc1b2b3b4aAc5b6b7aAc8aAc9c20b1b2b3b4aAc5eX001b2b3b4aAbBc5b6aAc7b8aAfY001aAc2b3b4b5b6b7b8eZ0
01b2aAbBbCbDc3aAbBc4aAc5aAc6b7b8b9c10b1b2b3b4b5aAbBbCbDbEbFbGbHbIc6aAbBbCbDbEbFbGbHyIGHT PETALLED OUTLINED B
LACK FLORETTEzgOINTED BLACK STARkPINWHEEL STARnRECTILINEAR BLACK STARzfSPOKED ASTERISKpTEARDROP-SPOKED PROPE
LLER ASTERISKzkH NOTEkJECT SYMBOLlLBASAN LETTER AbBEcCEbHEdDEbHEdEaIcFEcGEbHAMMAeEcJEdHEcIbJEcKEbHEdLEbLEdME
cNAbDEcEbJEdObPEcQEcREbREdSEbHEdTEbHEdUbVEcXEcYbZEbHEqECTRIC ARROWfLIGHT BULBkPLUGeTORCHgAL INTERSECTIONuMEN
T OFa OPENING DOWNWARDSjUPWARDSpWITH DOT ABOVEjLONG HORIZONTAL STROKEwOVERBARhTWO HORIZONTAL STROKESwUNDERBA
RiVERTICAL BAR AT END OF HORIZONTAL STROKEzzdPHANTfVATORgFbYMAIC LETTER ALEPHeYINeBETHeDALETHgGIMELfHEaTHeKA
PHeLAMEDHgMEMdNUNdPEcQOPHeRESHeSADHEdMEKHfHINeTAWcETHeWAWdYODHeZAYINlIGATURE ZAYIN-YODHzbM DASHeQUADeSPACEgO
JI COMPONENT BALDeCURLY HAIRkRED HAIRiWHITE HAIRuMODIFIER FITZPATRICK TYPE-1-2d3b4b5b6zgPHASIS SYMBOLmTY DOC
UMENTiNESTdOTEa PADbGEjPAGEaSfSETa WITH LEFT ARROW ABOVEqOVERBARhRIGHT ARROW ABOVErSMALL CIRCLE ABOVEzhN DAS
HeQUADeSPACEgD OF GUARDED AREAmLINEeMEDIUMgPROOFcTECTED AREAoSELECTED AREAnTEXTdRANSMISSIONa BLOCKvWITH LEFT
WARDS ARROW ABOVEzdQaUIRYfTER SYMBOLkVELOPEa WITH DOWNWARDS ARROW ABOVEvLIGHTNINGwOLbMbTcPAcQUAL AND PARALLE
L TOpTO BY DEFINITIONnOR GREATER-THANmLESS-THANjPRECEDESiSUCCEEDSpS COLONfSIGNa ABOVE LEFTWARDS ARROWpPLUS S
IGNjRIGHTWARDS ARROWqTILDE OPERATORtND SLANTED PARALLELa WITH TILDE ABOVEzmWITH BUMPY ABOVElDOT BELOWjINFINI
TY BELOWoTWO DOTS ABOVE AND TWO DOTS BELOWzsWITH ASTERISKrIANGULAR TOkVALENT TOcWITH FOUR DOTS ABOVEzfRASE T
O THE LEFTeRIGHTqIS FORM ONEdTWOlROR-BARRED BLACK CIRCLEgDIAMONDhSQUAREmWHITE CIRCLEgDIAMONDhSQUAREySAbCaAPE
eTIMATED SYMBOLiSiTBbHIOPIC COLONdMBINING GEMINATION AND VOWEL LENGTH MARKvMARKpVOWEL LENGTH MARKyMAfDIGIT E
IGHTfFIVEdOUReNINEeONEdSEVENeIXdTHREEeWOjFULL STOPjNUMBER EIGHTYgFIFTYeORTYfHUNDREDhNINETYgSEVENTYgIXTYfTEN
a THOUSANDlHIRTYfWENTYnPARAGRAPH SEPARATORsREFACE COLONnQUESTION MARKnSECTION MARKkMICOLONiYLLABLE BAaAcBAaA
cEaEcIbObUcEaEcIbOaAcUbWAbEaEcIdCAaAcCAaAcEaEcHAaAcEaEcHAaAcEaEcIbObUcIbObUcIbObUcEaEcHAaAcEaEcIbOaAcUbWAdIb
OaAcUbWAdDAaAcDAaAcEaEcHAAcEaEcIbObUcIbOaAcUbWAdEaEcIbOaAcUbWAcZAAcEaEcIbObUdFAaAcEaEcIbObUbWAbEaEcIcYAdGAaA
cEaEcGAaAcEaEcIbObUbWAaAcEaEcIdIbLOTTAL AaAcEaEcIbOaAcUbWAjOaAcUaRAGE BWEEcIdFWEEcIdGWEaEcIdHHWAeKWEaEcIdMWE
EcIdPWEEcIdQWEaEcIjWAaAcEaEcIcYAaAcEaEcIbObUdHAaAcEaEcHAaAcEaEcIbObUbWAbEaEcIcYAaAcEaEcIbObUdIbOaAcUcJAaAcEa
EcIbOaAcUbWAdKAaAcEaEcIbOaAcUbWAaAcEaEcIcXAaAcEaEcIbObUbWAaAcEaEcIdYAaAcEaEcIbObUdLAaAcEaEcIbOaAcUbWAdMAaAcE
aEcIbOaAcUbWAbEaEcIcYAdNAaAcEaEcIbOaAcUbWAcYAaAcEaEcIbOaAcUbWAePAaAcEaEcHAaAbRYNGEAL AaAcEaEcIbObUkEaEcIbOaA
cUbWAdIbOaAcUbWAbEaEcIdQAaAcEaEcHAaAcEaEcIbObUbWAaAcEaEcIdIbOaAcUbWAaAcEaEcIcYAaAcEaEcIbObUdRAaAcEaEcIbOaAcU
bWAcYAdSAaAcEaBATBEIT BWAdFWAdMWAdPWAlEcHAaAcEaEcIbOaAcUbWAdIbOaAcSAaAcEaEcIbObUcUbWAcZAaAcEaEcIbObUbWAeTAaA
cEaEcHAaAcEaEcIbOaAcUbWAdIbOaAcSAaAcEaEcIbObUbWAdTHAAcEaEcIbObUdUbWAcZAaAcEaEcIbOaAcUdVAaAcEaEcIbObUbWAdWAaA
cEaEcIbOaAcUcXAaAcEaEcIbOaAcUbWAaAcEaEcIcYAaAcEaEcIbObUdYAaAcEaEcIbOaAcUcZAaAcEaEcHAaAcEaEcIbObUbWAdIbOaAcUb
WAcZAaAcEaEcIbObUmTONAL MARK CHIRETgDERETa-HIDETkIFATfHIDETfKENATeURTeRIKRIKgSHORT RIKRIKmYIZETqWORDSPACEqXc
ULER CONSTANTmRO SIGNf-CURRENCY SIGNoPEAN CASTLEgPOST OFFICEtVERGREEN TREEnXCESSdLAMATION MARKeQUESTION MARK
xPRESSIONLESS FACErTENDED ARABIC-INDIC DIGIT EIGHTfFIVEdOUReNINEeONEdSEVENeIXdTHREEeWOdZEROzeRATERRESTRIAL A
LIENsEMELY HEAVY FIVE SPOKED ASTERISKuGREEK CROSSlSALTIREgIX SPOKED ASTERISKtWHITE CIRCLEgSQUAREzcYEaGLASSES
hS"

/-- The names that start with F. -/
def namesF : String := "aFACE HOLDING BACK TEARSsMASSAGEhPALMeSAVOURING DELICIOUS FOODxCREAMING IN FEARrTHROWING A KISSpWITH COLD SW
EATiWBOY HATkDIAGONAL MOUTHoFINGER COVERING CLOSED LIPSzcHEAD-BANDAGEmLOOK OF TRIUMPHpMEDICAL MASKlONOCLEhN
O GOOD GESTUREpOK GESTUREjNE EYEBROW RAISEDrPEN EYES AND HAND OVER MOUTHyMOUTHa AND COLD SWEAToVOMITINGtPART
Y HORN AND PARTY HATxEEKING EYEkLEADING EYESnROLLING EYESmSTUCK-OUT TONGUEa AND TIGHTLY-CLOSED EYEStWINKIN
G EYEzhTEARS OF JOYlHERMOMETERlUNEVEN EYES AND WAVY MOUTHzcOUT MOUTHpSIMILE SIGNlTORYfIRYdLAFELeLEN LEAFhIN
G DIAGONAL CROSSING NORTH EAST ARROWqRISING DIAGONALyIN WHITE CIRCLE IN BLACK SQUAREzvMILYeRSI SYMBOLkTHER C
HRISTMASoX ICONeMACHINEkEARFUL FACEjTHERfMALE SIGNiININE ORDINAL INDICATORyNCEReRRIS WHEELiYeFbIELD HOCKEY S
TICK AND BALLzGURE DASHeSPACEkLE CABINEThFOLDERgSEPARATORlM FRAMESgPROJECTORmNITE PART INTEGRALsREa ENGINEfX
TINGUISHERnCRACKERhWORK SPARKLERjSgST PLACE MEDALlQUARTER MOONa SYMBOLgWITH FACEwSTRONG ISOLATEsSHa CAKE WIT
H SWIRL DESIGNxEYEdING POLE AND FISHsTED HAND SIGNoVE DOT MARKePUNCTUATIONtLAG IN HOLEjMINGOfT SHOEfBREADfNE
SSgEUR-DE-LISjXED BICEPSlOPPY DISKiRAL HEARTjWERa PLAYING CARDSmUNCTUATION MARKvUSHED FACEkYaING DISCeENVELO
PEiSAUCERmOGaGYdLDEReNDUEeOTaPRINTSiR ALLeCESdK AND KNIFEa WITH PLATEvED PARAGRAPHOSoINGeM FEEDgTUNE COOKIEm
UNTAINfR BALLOON-SPOKED ASTERISKxCLUB-SPOKED ASTERISKtORNER ARROWS CIRCLING ANTICLOCKWISEzlDOT MARKePUNCTUAT
IONpLEAF CLOVERlPOINTED BLACK STARsTEARDROP-SPOKED ASTERISKz-PER-EM SPACEnTH ROOTjX FACEhRACTION NUMERATOR O
NEnSLASHlME WITH AN XePICTUREhTILESoEEZING FACEkNCH FRANC SIGNiIESkIED SHRIMPkOG FACEgNT-FACING BABY CHICKrT
ILTED SHADOWED WHITE RIGHTWARDS ARROWzqWNaING FACE WITH OPEN MOUTHzdSaIcUEL PUMPhLL BLOCKfMOON SYMBOLgWITH F
ACEoOUTER JOINkSTOPfWIDTH AMPERSANDiPOSTROPHEjSTERISKiBROKEN BARkCENT SIGNiIRCUMFLEX ACCENTqOLONdMMAbERCIA
L ATnDIGIT EIGHTfFIVEdOUReNINEeONEdSEVENeIXdTHREEeWOdZEROjOLLAR SIGNlEQUALS SIGNkXCLAMATION MARKqFULL STOPjG
RAVE ACCENTkEATER-THAN SIGNrHYPHEN-MINUSmLATIN CAPITAL LETTER AbBbCbDbEbFbGbHbIbJbKbLbMbNbObPbQbRbSbTbUbVbWb
XbYbZqSMALL LETTER AbBbCbDbEbFbGbHbIbJbKbLbMbNbObPbQbRbSbTbUbVbWbXbYbZtEFT CURLY BRACKETnPARENTHESISlSQUAR
E BRACKEToWHITE PARENTHESISuSS-THAN SIGNnOW LINEiMACRONgNOT SIGNhUMBER SIGNlPERCENT SIGNlLUS SIGNiOUND SIGNk
QUESTION MARKlOTATION MARKoREVERSE SOLIDUSoIGHT CURLY BRACKETnPARENTHESISlSQUARE BRACKEToWHITE PARENTHESISxS
EMICOLONiOLIDUShTILDEfVERTICAL LINEnWON SIGNiYEN SIGNqNCTION APPLICATIONrERAL URNjSEdVS1b2b3b4"

/-- The names that start with G. -/
def namesG : String := "aGAME DIEgRLICfEARa WITH HANDLESiOUT HUBoM STONEgINIeNIEdOMETRIC PROPORTIONlALLY EQUAL TOfIVALENT TOyRGIAN C
APITAL LETTER AENcNcBANdCANcHARcINdILdDONdENcGANcHANeHAEbRcEbIEcOEdINcJHANdILdKANcHAReLASdMANdNARdONcPARcHAR
eQARdRAEdSANcHINeTANbRdUNcVINdWEcXANdYNcZENcHARtLETTER AENcINcNcBANdCANcHARcINdILdDONdELIFIeNcFIcGANcHANeHAE
bRaD SIGNiEbIEcOEdINcJHANdILdKANcHAReLABIAL SIGNjSdMANdNARdONcPARcHAReQARdRAEdSANcHINeTANbRcURNED GANkUNcVIN
dWEcXANdYNcZENcHARlMTAVRULI CAPITAL LETTER AENcINcNcBANdCANcHARcINdILdDONdELIFIeNcFIcGANcHANeHAEbRaD SIGNiEb
IEcOEdINcJHANdILdKANcHAReLABIAL SIGNjSdMANdNARdONcPARcHAReQARdRAEdSANcHINeTANbRcURNED GANkUNcVINdWEcXANdYNcZ
ENcHARzdPARAGRAPH SEPARATORtSMALL LETTER AENcNcBANdCANcHARcINdILdDONdENcGANcHANeHAEbRcEbIEcOEdINcJHANdILdKAN
cHAReLASdMANdNARdONcPARcHAReQARdRAEdSANcHINeTANbRdUNcVINdWEcXANdYNcZENcHARyRMAN PENNY SIGNpTA MARKiHOSTeIME
L SYMBOLkRAFFE FACEjLaS SYMBOLlLAGOLITIC CAPITAL LETTER AZUdBIG YUSgUKYeCAUDATE CHRIVInHRIVIgDJERVIfOBROeZEL
OfFITAdRITUfGLAGOLIhHERUeIaNITIAL IZHElOTATED BIG YUShSMALL YUSqZHEbITSAhKAKOeLATINATE MYSLITEpJUDIJEhMYSLIT
EhNASHIfONUcTUdPEbOKOJIgRITSIfSHAbTAaPICgLOVOeMALL YUSa WITH TAILsPIDERY HAkTROKUTASTI AlSIcVRIDOgUKUdVEDEeY
ATIdERIbUcSTUeObUcZEMLJAfHIVETEwSMALL LETTER AZUdBIG YUSgUKYeCAUDATE CHRIVInHRIVIgDJERVIfOBROeZELOfFITAdRITU
fGLAGOLIhHERUeIaNITIAL IZHElOTATED BIG YUShSMALL YUSqZHEbITSAhKAKOeLATINATE MYSLITEpJUDIJEhMYSLITEhNASHIfONU
cTUdPEbOKOJIgRITSIfSHAbTAaPICgLOVOeMALL YUSa WITH TAILsPIDERY HAkTROKUTASTI AlSIcVRIDOgUKUdVEDEeYATIdERIbUcS
TUeObUcZEMLJAfHIVETEzdSS OF MILKlEICH STARKkOBE WITH MERIDIANSrVESdWING STARlOAL NETfTcGGLESfLFEReRILLAfTHI
C LETTER AHSAdIHVUSgBAIRKANhDAGSeEISdFAIHUfGIBAeHAGLdWAIRfIGGWSeUJAeJERdKUSMAfLAGUSfMANNAfNAUTHSfINE HUNDRED
iTYgOTHALfPAIRTHRAiQAIRTHRAiRAIDAfSAUILfTEIWSeHIUTHgURUSeWINJAsRADUATION CAPlNTHA AU LENGTH MARKoLETTER AaAb
IbUcBAbHAdCAbHAdDAbDAbHAdHAdEEcGAbHAdHAcIaIcJAbHAdKAbHAdLAbLAdMAcNAbGAcNAcYAdOOcPAbHAdRAcSAbHAcSAdTAbHAcTAbH
AeUaUcVAbEDIC ANUSVARAiDOUBLE ANUSVARAuOCALIC LaLcRaRkYAjOMcSIGN ANUSVARAhVAGRAHAiCANDRABINDUkOMBINING ANUSV
ARA ABOVEyNUKTAfPLUTAfVIRAMAeSARGAmVOWEL SIGN AAbIbUcEEcIaIcOOcUaUcVOCALIC LaLcRaRzbPESdVE ACCENTkEATER-THA
N ABOVE DOUBLE-LINE EQUAL ABOVE LESS-THANziLESS-THAN ABOVE DOUBLE-LINE EQUALziRIGHTWARDS ARROWqSIMILAR ABOV
E LESS-THANpOR EQUALpLANTED EQUAL ABOVE LESS-THAN ABOVE SLANTED EQUALzzeND NOT APPROXIMATEpSINGLE-LINE NOT E
QUAL TOzdBESIDE LESS-THANpUT NOT EQUAL TOfIVALENT TOvCLOSED BY CURVEa ABOVE SLANTED EQUALzkEQUAL TO OR LESS-
THANvOR APPROXIMATElEQUAL TOfIVALENT TOnLESS-THANjSLANTED EQUAL TOa WITH DOT ABOVEa LEFTkINSIDEzjVER EQUAL T
OjLAPPING LESS-THANvSIGNeWITH CIRCLE INSIDEnDOTdQUESTION MARK ABOVEzjEK ACROPHONIC ATTIC FIFTYa STATERShTALE
NTSgHOUSANDa STATERSuVEa HUNDREDa STATERShTALENTSpSTATERShTALENTSgHOUSANDa TALENTSvONE DRACHMAhHALFdUNDRED S
TATERShTALENTSpQUARTERhTHOUSAND STATERShTALENTSuTEN MNASeSTATERShTALENTSgHOUSAND STATERSzbCARYSTIAN FIVE HUN
DREDvYRENAIC TWO DRACHMASvDELPHIC FIVE MNASrEPIDAUREAN FIVE HUNDREDmTWOa DRACHMASxHERAEUM ONE PLETHRONrMIONI
AN FIFTYfONEdTENoMESSENIAN TENnNAXIAN FIVE HUNDREDtSTRATIAN FIFTY MNAStTHESPIAN FIFTYdVE HUNDREDhTHOUSANDnON
Ea HUNDREDhTHOUSANDmTENcHIRTYeREE HUNDREDmWOlROEZENIAN FIFTYa ALTERNATE FORMsVEa HUNDREDmTENa ALTERNATE FORM
zoNO TELEIAjROURA SIGNjTABE SIGNlBETA SYMBOLlCAPITAL DOTTED LUNATE SIGMA SYMBOLzbKAI SYMBOLkLETTER ALPHAa WI
TH DASIAa AND OXIAa AND PROSGEGRAMMENIxPERISPOMENIa AND PROSGEGRAMMENIzeROSGEGRAMMENIoVARIAa AND PROSGEGRAMM
ENIzjMACRONgOXIAePROSGEGRAMMENInSILIa AND OXIAa AND PROSGEGRAMMENIxPERISPOMENIa AND PROSGEGRAMMENIzeROSGEGRA
MMENIoVARIAa AND PROSGEGRAMMENIzjTONOSfVARIAeRACHYqRCHAIC SAMPInBETAeCHIdDELTAfEPSILONa WITH DASIAa AND OXIA
eVARIApOXIAePSILIa AND OXIAeVARIApTONOSfVARIArTAa WITH DASIAa AND OXIAa AND PROSGEGRAMMENIxPERISPOMENIa AN
D PROSGEGRAMMENIzeROSGEGRAMMENIoVARIAa AND PROSGEGRAMMENIzjOXIAePROSGEGRAMMENInSILIa AND OXIAa AND PROSGEGRA
MMENIxPERISPOMENIa AND PROSGEGRAMMENIzeROSGEGRAMMENIoVARIAa AND PROSGEGRAMMENIzjTONOSfVARIAoGAMMAfHETAeIOTA
a WITH DASIAa AND OXIAePERISPOMENIlVARIAoIALYTIKAjMACRONgOXIAePSILIa AND OXIAePERISPOMENIlVARIApTONOSfVARIAe
RACHYqKAPPAfLAMDAfMUcNUcOMEGAa WITH DASIAa AND OXIAa AND PROSGEGRAMMENIxPERISPOMENIa AND PROSGEGRAMMENIzeROS
GEGRAMMENIoVARIAa AND PROSGEGRAMMENIzjOXIAePROSGEGRAMMENInSILIa AND OXIAa AND PROSGEGRAMMENIxPERISPOMENIa AN
D PROSGEGRAMMENIzeROSGEGRAMMENIoVARIAa AND PROSGEGRAMMENIzjTONOSfVARIAoICRONa WITH DASIAa AND OXIAeVARIApOXI
AePSILIa AND OXIAeVARIApTONOSfVARIAsPAMPHYLIAN DIGAMMArHIcIbSIdRHOa WITH DASIAoSANcHOcIGMAfTAUcHETAfUPSILON
a WITH DASIAa AND OXIAePERISPOMENIlVARIAoIALYTIKAjMACRONgOXIAeTONOSfVARIAeRACHYtXIcYOTdZETAkUNATE SIGMA SYMB
OLtREVERSED DOTTED LUNATE SIGMA SYMBOLzbLUNATE SIGMA SYMBOLzdTHETA SYMBOLuDASIAa AND OXIAePERISPOMENIlVARIAo
IALYTIKA AND OXIAePERISPOMENIlVARIAjTONOSoRACHMA SIGNmFIVE OBOLS SIGNoOUR OBOLS SIGNpGRAMMA SIGNlINDICTION S
IGNmSTRUMENTAL NOTATION SYMBOL-1a1b2b3b4b7b8b9c2a3b4b5b6b7b9c30b2b6b7b8b9c4a0b2b3b5b7b8b9c5a0b1b2b3b4c7b8zfK
AI SYMBOLiPPA SYMBOLlORONISgYATHOS BASE SIGNrLETTER ARCHAIC KOPPAnDIGAMMAhKOPPAfSAMPIeMALL CAPITAL GAMMAfLAM
DAfOMEGAfPIbSIdRHOqTIGMAgYOTjITRA SIGNjOWER NUMERAL SIGNrUNATE EPSILON SYMBOLoSIGMA SYMBOLtMETRETES SIGNmUSI
CAL LEIMMAoNUMERAL SIGNmOBOL SIGNiNE HALF SIGNa ALTERNATE FORMyQUARTER SIGNpUNKIA SIGNkXIAePERISPOMENIkHI SY
MBOLjI SYMBOLiROSGEGRAMMENInSILIa AND OXIAePERISPOMENIlVARIApQUESTION MARKnREVERSED LUNATE EPSILON SYMBOLzeH
O SYMBOLgWITH STROKE SYMBOLwSINUSOID SIGNmMALL DOTTED LUNATE SIGMA SYMBOLzbLETTER ALPHAa WITH DASIAa AND OXI
Aa AND YPOGEGRAMMENIwPERISPOMENIa AND YPOGEGRAMMENIzeVARIAa AND YPOGEGRAMMENIxYPOGEGRAMMENIxMACRONgOXIAa AN
D YPOGEGRAMMENIwPERISPOMENIa AND YPOGEGRAMMENIzdSILIa AND OXIAa AND YPOGEGRAMMENIwPERISPOMENIa AND YPOGEGRAM
MENIzeVARIAa AND YPOGEGRAMMENIxYPOGEGRAMMENIxTONOSfVARIAa AND YPOGEGRAMMENIwRACHYgYPOGEGRAMMENIxRCHAIC KOPPA
fSAMPInBETAeCHIdDELTAeIGAMMAhEPSILONa WITH DASIAa AND OXIAeVARIApOXIAePSILIa AND OXIAeVARIApTONOSfVARIArTA
a WITH DASIAa AND OXIAa AND YPOGEGRAMMENIwPERISPOMENIa AND YPOGEGRAMMENIzeVARIAa AND YPOGEGRAMMENIxYPOGEGRAM
MENIxOXIAa AND YPOGEGRAMMENIwPERISPOMENIa AND YPOGEGRAMMENIzdSILIa AND OXIAa AND YPOGEGRAMMENIwPERISPOMENI
a AND YPOGEGRAMMENIzeVARIAa AND YPOGEGRAMMENIxYPOGEGRAMMENIxTONOSfVARIAa AND YPOGEGRAMMENIxYPOGEGRAMMENIwFIN
AL SIGMAlGAMMAfHETAeIOTAa WITH DASIAa AND OXIAePERISPOMENIlVARIAoIALYTIKAa AND OXIAePERISPOMENIlTONOSfVARIAt
MACRONgOXIAePERISPOMENIkSILIa AND OXIAePERISPOMENIlVARIApTONOSfVARIAeRACHYqKAPPAeOPPAfLAMDAfMUcNUcOMEGAa WIT
H DASIAa AND OXIAa AND YPOGEGRAMMENIwPERISPOMENIa AND YPOGEGRAMMENIzeVARIAa AND YPOGEGRAMMENIxYPOGEGRAMMENIx
OXIAa AND YPOGEGRAMMENIwPERISPOMENIa AND YPOGEGRAMMENIzdSILIa AND OXIAa AND YPOGEGRAMMENIwPERISPOMENIa AND Y
POGEGRAMMENIzeVARIAa AND YPOGEGRAMMENIxYPOGEGRAMMENIxTONOSfVARIAa AND YPOGEGRAMMENIxYPOGEGRAMMENIwICRONa WIT
H DASIAa AND OXIAeVARIApOXIAePSILIa AND OXIAeVARIApTONOSfVARIAsPAMPHYLIAN DIGAMMArHIcIbSIdRHOa WITH DASIAfPS
ILIoSAMPIdNcHOcIGMAeTIGMAgTAUcHETAfUPSILONa WITH DASIAa AND OXIAePERISPOMENIlVARIAoIALYTIKAa AND OXIAePERISP
OMENIlTONOSfVARIAtMACRONgOXIAePERISPOMENIkSILIa AND OXIAePERISPOMENIlVARIApTONOSfVARIAeRACHYtXIcZETAlREVERSE
D DOTTED LUNATE SIGMA SYMBOLzbLUNATE SIGMA SYMBOLziUBSCRIPT SMALL LETTER BETAeCHIdGAMMAfPHIdRHOzYMBOL TAU RH
OoTALENT SIGNkHETA SYMBOLkREE OBOLS SIGNkQUARTERS SIGNsONOSeRYBLION BASE SIGNrWO OBOLS SIGNkTHIRDS SIGNpUPSI
LON WITH ACUTE AND HOOK SYMBOLvDIAERESIS AND HOOK SYMBOLzHOOK SYMBOLyVARIAeOCAL NOTATION SYMBOL-1a0b1b2b3b4b
5b6b7b8b9c2a0b1b2b3b4c3b4b5a0b1b2b3b4c6b7b8b9xXESTES SIGNlYEAR SIGNiPOGEGRAMMENInZERO SIGNlN APPLEfBOOKeHEAR
TfSALADjIMACING FACElNNING CAT FACE WITH SMILING EYESzbFACEa WITH ONE LARGE AND ONE SMALL EYEzcSMILING EYESl
TAR EYESzbOUP MARKeSEPARATORmWING HEARTmSbUARANI SIGNiDSMANhIDE DOGgTAReJARATI ABBREVIATION SIGNrDIGIT EIGHT
fFIVEdOUReNINEeONEdSEVENeIXdTHREEeWOdZEROkLETTER AaAbIbUcBAbHAdCAbHAdDAbDAbHAdHAdEbGAbHAdHAcIaIcJAbHAdKAbHAd
LAbLAdMAcNAbGAcNAcYAdObPAbHAdRAcSAbHAcSAdTAbHAcTAbHAeUaUcVAbOCALIC LaLcRaRkYAcZHAkOMcRUPEE SIGNkSIGN ANUSVAR
AhVAGRAHAiCANDRABINDUkIRCLE NUKTA ABOVEsMADDAHgNUKTAfSHADDAfUKUNfTHREE-DOT NUKTA ABOVEuWO-CIRCLE NUKTA ABOVE
wVIRAMAeSARGAmVOWEL CANDRA EbOiSIGN AAbIbUcCANDRA EbOiEbIaIcObUaUcVOCALIC LaLcRaRzdNJALA GONDI DIGIT EIGHTfF
IVEdOUReNINEeONEdSEVENeIXdTHREEeWOdZEROkLETTER AaAbIbUcBAbHAdCAbHAdDAbDAbHAdHAdEEcGAbHAdHAcIaIcJAbHAdKAbHAdL
AbLAdMAcNAbGAdOOcPAbHAdRAcSAcTAbHAcTAbHAeUaUcVAcYAjOMcSIGN ANUSVARAiVISARGAmVIRAMAfOWEL SIGN AAbIbUcEEcIaIcO
OcUaUzRMUKHI ABBREVIATION SIGNqDDAKfDIGIT EIGHTfFIVEdOUReNINEeONEdSEVENeIXdTHREEeWOdZEROkEK ONKARiIRIdLETTE
R AaAbIbUcBAbHAdCAbHAdDAbDAbHAdHAdEEcFAcGAbHAbHAeHAcIaIcJAbHAdKAbHAbHAeLAbLAdMAcNAbGAcNAcYAdOOcPAbHAdRAbRAdS
AbHAdTAbHAcTAbHAeUaUcVAcYAcZAjSIGN ADAK BINDIkBINDIfNUKTAfUDAATfVIRAMAeSARGAhYAKASHlTIPPIfURAdVOWEL SIGN AAb
IbUcEEcIaIcOOcUaU"

/-- The names that start with H. -/
def namesH : String := "aHADESdIR SPACEgCUTfLFWIDTH BLACK SQUAREmDOWNWARDS ARROWpFORMS LIGHT VERTICALuHANGUL FILLERgLETTER AaEcCHIEU
CHgIEUCfEaObUcHIEUHfIaEUNGfKHIEUKHgIYEOKa-SIOSlMIEUMfNIEUNa-CIEUCfHIEUHlOaEcPHIEUPHgIEUPa-SIOSkRIEULa-HIEUHf
KIYEOKgMIEUMfPHIEUPHgIEUPfSIOSeTHIEUTHnSIOSdSANGCIEUCfKIYEOKgPIEUPfSIOSeTIKEUTlTHIEUTHgIKEUTgUbWAaEcEaOcIcYA
aEcEaOcIbObUqIDEOGRAPHIC COMMAfFULL STOPvKATAKANA LETTER AbEbHAbEbIbObUcIbKAbEbIbObUcMAbEbIbObUcNaAbEbIbObUc
ObRAbEbIbObUcSAbEbIbMALL AbEbIbObTUcUbYAbObUhObUcTAbEbIbObUcUbWAbOcYAbObUjMIDDLE DOTkSEMI-VOICED SOUND MARKw
VOICED SOUND MARKs-HIRAGANA PROLONGED SOUND MARKznLEFT CORNER BRACKETpWARDS ARROWpRIGHT CORNER BRACKETpWARD
S ARROWqUPWARDS ARROWnWHITE CIRCLEuMBURGERgMERa AND PICKeSICKLEgWRENCHoSAbTER FACEkND WITH INDEX AND MIDDL
E FINGERS CROSSEDzbFINGER AND THUMB CROSSEDzlBAGbLLeSHAKEgGUL CHOSEONG CEONGCHIEUMCHIEUCHgIEUCfSIOSdSANGCIEU
CfSIOStHIEUCHa-HIEUHfKHIEUKHmTUEUMCHIEUCHgIEUCfSIOSdSANGCIEUCfSIOSqIEUCa-IEUNGlFILLERgHIEUHa-SIOSkIEUNGa-CHI
EUCHgIEUCfHIEUHfKIYEOKgMIEUMfPANSIOSgHIEUPHgIEUPfRIEULfSIOSeTHIEUTHgIKEUTmKAPYEOUNMIEUMfPHIEUPHgIEUPfRIEULfS
SANGPIEUPrHIEUKHgIYEOKa-TIKEUTnMIEUMa-KIYEOKgPIEUPfSIOSeTIKEUTmNIEUNa-CIEUCfHIEUHfKIYEOKgPIEUPfSIOSeTIKEUTmP
ANSIOSgHIEUPHa-HIEUHfPIEUPmIEUPa-CHIEUCHgIEUCfHIEUHfKHIEUKHgIYEOKgNIEUNfPHIEUPHhSIOSa-CIEUCfKIYEOKgPIEUPfTHI
EUTHgIKEUTkSANGSIOSjTHIEUTHgIKEUTmRIEULa-CIEUCfHIEUHfKAPYEOUNPIEUPmHIEUKHgIYEOKgMIEUMfNIEUNfPIEUPfSIOSdSANGK
IYEOKgPIEUPfTIKEUTlTIKEUTmSIOSa-CHIEUCHgIEUCfHIEUHfIEUNGfKHIEUKHgIYEOKgMIEUMfNIEUNfPHIEUPHgIEUPa-KIYEOKmRIEU
LfSSANGSIOSjTHIEUTHgIKEUTkSANGCIEUCa-HIEUHlHIEUHfIEUNGfKIYEOKgNIEUNfPIEUPfRIEULfSIOSa-PIEUPkTHIEUTHgIKEUTgYE
ORINHIEUHqTHIEUTHgIKEUTa-CIEUCfKIYEOKgMIEUMfPIEUPfRIEULfSIOSlYEORINHIEUHjSIEUNGrDOUBLE DOT TONE MARKuFILLERg
JONGSEONG CHIEUCHgIEUCa-PIEUPfSSANGPIEUPqHIEUHa-MIEUMfNIEUNfPIEUPfRIEULlIEUNGa-KHIEUKHgIYEOKgSSANGKIYEOKrKAP
YEOUNMIEUMfPHIEUPHgIEUPfRIEULmHIEUKHgIYEOKa-CHIEUCHhHIEUHfKHIEUKHhNIEUNfPIEUPfRIEULfSIOSa-KIYEOKsMIEUMa-CHIE
UCHgIEUCfHIEUHfKIYEOKgNIEUNfPANSIOSgIEUPa-SIOSkRIEULfSIOSdSANGNIEUNfSIOSpNIEUNa-CHIEUCHgIEUCfHIEUHfKIYEOKgPA
NSIOShRIEULfSIOSeTHIEUTHgIKEUTmPANSIOSa-KAPYEOUNPIEUPnPIEUPmHIEUPHa-PIEUPfSIOSeTHIEUTHoIEUPa-CHIEUCHgIEUCfHI
EUHfMIEUMfPHIEUPHhRIEULa-PHIEUPHnSIOSa-TIKEUTlTIKEUTmRIEULa-HIEUHfKAPYEOUNPIEUPmHIEUKHgIYEOKa-HIEUHfSIOSlMIE
UMa-HIEUHfKIYEOKgSIOSkNIEUNfPANSIOSgHIEUPHgIEUPa-HIEUHfPHIEUPHhSIOSeTIKEUTmSIOSdSANGKIYEOKgSIOSjTHIEUTHgIKEU
Ta-HIEUHmYEORINHIEUHa-HIEUHpSIEUNGoSIOSa-CHIEUCHgIEUCfHIEUHfKAPYEOUNPIEUPmIYEOKgMIEUMfPANSIOSgIEUPfRIEULfTHI
EUTHgIKEUTkSANGCIEUCfIEUNGfKIYEOKgMIEUMfNIEUNfPIEUPfRIEULa-KHIEUKHnSIOSa-KIYEOKgTIKEUTlTIKEUTa-PIEUPmYESIEUN
GnTHIEUTHgIKEUTa-CHIEUCHgIEUCfKIYEOKgPIEUPfRIEULfSIOSa-KIYEOKlTHIEUTHoYEORINHIEUHjSIEUNGa-HIEUHfKHIEUKHgIYEO
KgMIEUMfPANSIOShSIOSdSANGKIYEOKzeUNGSEONG Aa-EUcObUcEbRAEAa-AbEaOcIbUhEaOa-EUcObUdUa-AbEaObUcObUeFILLERgIa-A
aRAEAfEUcIbOa-IdUbYAa-OcEcEaOcObUeOa-EaOcOa-IdUbYAaEcEaOeEcSSANGARAEAkUa-AaEcEO-EUfI-IdUbYEaOfWAaEcEaOcIcYAa
-ObUbYOdEcEaOa-ObUbYAfIa-UdOa-AaEcEOcIbObYAaEcEOfUa-AaEcEaOcIbObUbYEaOqLETTER AaEbRAEAaEgCHIEUCHgIEUCfEaObUc
HIEUHfIaEUNGfKAPYEOUNMIEUMfPHIEUPHgIEUPfSSANGPIEUPrHIEUKHgIYEOKa-SIOSlMIEUMa-PANSIOSgIEUPfSIOSkNIEUNa-CIEUCf
HIEUHfPANSIOShSIOSeTIKEUTmOaEcPANSIOSgHIEUPHgIEUPa-CIEUCfKIYEOKgSIOSa-KIYEOKgTIKEUTlTHIEUTHgIKEUTmRIEULa-HIE
UHfKIYEOKa-SIOSlMIEUMfPANSIOSgHIEUPHgIEUPa-SIOSkSIOSeTHIEUTHgIKEUTgYEORINHIEUHrSIOSa-CIEUCfKIYEOKgNIEUNfPIEU
PfTIKEUTkSANGCIEUCfHIEUHfIEUNGfKIYEOKgNIEUNfPIEUPfSIOSeTIKEUTlTHIEUTHgIKEUTgUbWAaEcEaOcIcYAaEcEaOaRINHIEUHjS
IEUNGa-PANSIOShSIOSmIbOa-IbYAaEfUa-IbYEaOnSINGLE DOT TONE MARKxZHOU NUMERAL EIGHTfFIVEdOUReNINEeONEdSEVENeIX
dTENcHIRTYeREEeWENTYeOrIFI ROHINGYA DIGIT EIGHTfFIVEdOUReNINEeONEdSEVENeIXdTHREEeWOdZEROkLETTER AbBAcCAcDAbD
AdFAcGAcHAcJAcKAbHAcINNA WAcYAiLAcMAcNAbGAcYAdPAcRAbRAdSAbHAdTAbTAdVAcWAcYAcZAjMARK NA KHONNAjSAKINkSIGN HAR
BAHAYiTAHALAeNAcSSIkVOWEL AbEbIbObUuUNOO LETTER AbBAcDAcGAcHAcIbKAcLAcMAcNAbGAdPAcRAcSAcTAcUbWAcYAjSIGN PAMU
DPODnVOWEL SIGN IbUsPPY PERSON RAISING ONE HANDzcRD DISKhTCHING CHICKlRAN LETTER ALEPHeYNdBETHeDALETH-RESHlG
IMELfHEaTHeKAPHeLAMEDHgMEMdNUNdPEcQOPHeSADHEdMEKHfHINeTAWcETHeWAWdYODHeZAYNlNUMBER FIVEeONEa HUNDREDlTENcWEN
TYtEADPHONEfSTONEa GRAVEYARD SYMBOLxR-NO-EVIL MONKEYpT DECORATIONkHANDSfWITH ARROWfRIBBONgTIP ON THE LEFTxV
Y AMPERSAND ORNAMENTrRROW SHAFT WIDTH ONEa HALFeTHIRDjTWO THIRDSzcSTERISKiBALLOT XhLACK CURVED DOWNWARDS AN
D RIGHTWARDS ARROWzfUPWARDS AND RIGHTWARDS ARROWzkHEARTg-FEATHERED NORTH EAST ARROWqRIGHTWARDS ARROWqSOUTH E
AST ARROWzhCHECK MARKhVRON SNOWFLAKEqIRCLEa WITH CIRCLE INSIDEnSTROKE AND TWO DOTS ABOVEzgD SALTIREoONCAVE-P
OINTED BLACK RIGHTWARDS ARROWznDASHED TRIANGLE-HEADED RIGHTWARDS ARROWznIVISION SIGNmOLLAR SIGNjUBLE COMMA Q
UOTATION MARK ORNAMENTzeTURNED COMMA QUOTATION MARK ORNAMENTzqWNWARDS ARROW WITH EQUILATERAL ARROWHEADvLARG
E EQUILATERAL ARROWHEADzxEIGHT POINTED BLACK STARkPINWHEEL STARnRECTILINEAR BLACK STARzfSPOKED ASTERISKpTEAR
DROP-SPOKED PROPELLER ASTERISKzoQUALS SIGNkXCLAMATION MARK ORNAMENTiSYMBOLxFIVE POINTED BLACK STARsSPOKED AS
TERISKtOUR BALLOON-SPOKED ASTERISKzdGREEK CROSSlHEART EXCLAMATION MARK ORNAMENTzfORIZONTAL FILLpINTERROBAN
G ORNAMENTuLARGE CIRCLEkTIN CROSSkEFT-POINTING ANGLE BRACKET ORNAMENTqQUOTATION MARK ORNAMENTzoWARDS ARROW W
ITH EQUILATERAL ARROWHEADvLARGE EQUILATERAL ARROWHEADzwIGATURE OPEN ET ORNAMENTyOW DOUBLE COMMA QUOTATION MA
RK ORNAMENTzlSINGLE COMMA QUOTATION MARK ORNAMENTzmER RIGHT-SHADOWED WHITE RIGHTWARDS ARROWzsMINUS SIGNjULTI
PLICATION XqNORTH EAST ARROWfPOINTING BUDdVINE LEAFxWEST POINTING BUDdVINE LEAFzeOPEN CENTRE CROSSqUTLINED B
LACK STARsVAL WITH OVAL INSIDEvPLUS SIGNjRIGHT-POINTING ANGLE BRACKET ORNAMENTqQUOTATION MARK ORNAMENTzoWARD
S ARROWa WITH EQUILATERAL ARROWHEADvLARGE EQUILATERAL ARROWHEADzxOUND-TIPPED RIGHTWARDS ARROWzeSALTIREfNS-SE
RIF INTERROBANG ORNAMENTzfCRIPT LIGATURE ET ORNAMENTzbINGLE COMMA QUOTATION MARK ORNAMENTzeTURNED COMMA QUOT
ATION MARK ORNAMENTzqX POINTED BLACK STARsSPOKED ASTERISKsOUTH EAST ARROWfPOINTING BUDdVINE LEAFxWEST POINTI
NG BUDdVINE LEAFzdPARKLEhTEARDROP-SHANKED RIGHTWARDS ARROWxPOKED ASTERISKiPINWHEEL ASTERISKzhRIANGLE-HEADE
D RIGHTWARDS ARROWzgWELVE POINTED BLACK STARkPINWHEEL STARzdUPPER RIGHT-SHADOWED WHITE RIGHTWARDS ARROWzqWAR
DS ARROW WITH EQUILATERAL ARROWHEADvLARGE EQUILATERAL ARROWHEADzvVERTICAL BARmWEDGE-TAILED RIGHTWARDS ARROWz
dHITE CIRCLEgDOWN-POINTING TRIANGLEwSQUARElIDE-HEADED RIGHTWARDS ARROWzhBREW ACCENT ATNAH HAFUKHmDARGAeEHIeE
TNAHTAhGERESHa MUQDAMkSHAYIMjILUYeMAHAPAKHhERKHAa KEFULAmUNAHfOLEdPASHTAeZERfQADMAdRNEY PARAlREVIAfSEGOLeHAL
SHELETkTELISHA GEDOLAgQETANAmVIReIPEHAgYERAH BEN YOMOmTIVfZAQEF GADOLfQATANjRQAeINORmLETTER ALEFa WITH MAPIQ
fPATAHfQAMATSoTERNATIVE AYINePLUS SIGNuYINeBETa WITH DAGESHgRAFEnDALETa WITH DAGESHrFINAL KAFa WITH DAGESHpM
EMdNUNdPEa WITH DAGESHoTSADIlGIMELa WITH DAGESHrHEa WITH MAPIQlTdKAFa WITH DAGESHgRAFEnLAMEDa WITH DAGESHrME
Ma WITH DAGESHpNUNa WITH DAGESHpPEa WITH DAGESHgRAFEmQOFa WITH DAGESHpRESHa WITH DAGESHqSAMEKHa WITH DAGESHr
HINa WITH DAGESHa AND SHIN DOThIN DOTsSHIN DOThIN DOTrTAVa WITH DAGESHoETa WITH DAGESHoSADIa WITH DAGESHrVAV
a WITH DAGESHgHOLAMoWIDE ALEFeDALETfFINAL MEMjHEcKAFdLAMEDfRESHeTAViYODa WITH DAGESHgHIRIQoZAYINa WITH DAGES
HxIGATURE ALEF LAMEDkYIDDISH DOUBLE VAVdYODkVAV YODhYOD YOD PATAHzfMARK LOWER DOTjMASORA CIRCLEnUPPER DOToPO
INT DAGESH OR MAPIQpHATAF PATAHfQAMATSgSEGOLkIRIQeOLAMa HASER FOR VAVtJUDEO-SPANISH VARIKAuMETEGfPATAHfQAMAT
Sa QATANlUBUTSgRAFEeSEGOLeHEVAdIN DOThIN DOThTSEREkUNCTUATION GERESHdSHAYIMjMAQAFfNUN HAFUKHAlPASEQfSOF PASU
QvYOD TRIANGLErDGEHOGgLICOPTERhLSCHREIBER PAUSE SYMBOLxM SYMBOLhET WITH WHITE CROSSvNTAIGANA LETTER A-1b2b3b
WOeE-1b2b3b4b5b6dHA-1a0b1c2b3b4b5b6b7b8b9dE-1b2b3b4b5b6b7dI-1b2b3b4b5b6b7dO-1b2b3b4b5b6b7b8dU-1b2b3eI-1b2b3b
4dKA-1a0b1c2b3b4b5b6b7b8b9bKEeE-1b2b3b4b5b6dI-1b2b3b4b5b6b7b8dO-1b2b3bKIeU-1b2b3b4b5b6b7eMA-1b2b3b4b5b6b7dE-
1b2bMAeI-1b2b3b4b5b6b7dO-1b2b3b4b5b6dU-1b2b3b4eN-MU-MO-1b2iA-1b2b3b4b5b6b7b8b9dE-1b2b3b4b5b6bKOeI-1b2b3b4b5b
6b7bTEeO-1b2b3b4b5dU-1b2b3eO-1b2b3dRA-1b2b3b4dE-1b2b3b4dI-1b2b3b4b5b6b7dO-1b2b3b4b5b6dU-1b2b3b4b5b6eSA-1b2b3
b4b5b6b7b8dE-1b2b3b4b5dI-1b2b3b4b5b6dO-1b2b3b4b5b6b7dU-1b2b3b4b5b6b7b8eTA-1b2b3b4dE-1b2b3b4b5b6b7b8b9dI-1b2b
3b4b5b6b7dO-1b2b3b4b5b6bRAeU-1b2b3b4bTOfU-1b2b3b4b5dWA-1b2b3b4b5dE-1b2b3b4dI-1b2b3b4b5dO-1b2b3b4b5b6b7eYA-1b
2b3b4b5bYOeO-1b2b3b4b5b6dU-1b2b3b4uRBbMITIAN CONJUGATE MATRIXyXAGRAM FOR ABUNDANCEiFTER COMPLETIONpPPROACHiB
EFORE COMPLETIONqITING THROUGHnREAKTHROUGHmCOMING TO MEETmNFLICTfTEMPLATIONnDARKENING OF THE LIGHTvECREASEgL
IVERANCEjVELOPMENTkIFFICULTY AT THE BEGINNINGzSPERSIONjURATIONiENTHUSIASMkFELLOWSHIPjOLLOWINGjGATHERING TOGE
THERrRACEdEAT POSSESSIONiWEReREPONDERANCEnTAMINGmHOLDING TOGETHERqINCREASEgFLUENCEhNER TRUTHiOCENCEjLIMITATI
ONkMODESTYfUTH CORNERSnOBSTRUCTIONkPPOSITIONhRESSIONkPEACEeROGRESShUSHING UPWARDoRETREATeURNeVOLUTIONkSMAL
L PREPONDERANCEnTAMINGlPLITTING APARToTANDSTILLkTHE ABYSMAL WATERmRMYcOUSING THUNDERqCAULDRONhLINGING FIREmR
EATIVE HEAVENpFAMILYgGENTLE WINDlJOYOUS LAKElKEEPING STILL MOUNTAINwMARRYING MAIDENpRECEPTIVE EARTHpWANDERER
hELLhREADINGiWAITINGgORK ON THE DECAYEDtYOUTHFUL FOLLYzbIBISCUSgGH BRIGHTNESS SYMBOLrOCTET PRESETmVOLTAGE SI
GNn-HEELED SHOElSPEED TRAINa WITH BULLET NOSEzgKING BOOTjNDU TEMPLEkPPOPOTAMUSkRAGANA DIGRAPH YORImITERATIO
N MARKoLETTER AaRCHAIC WUcYEkBAbEbIbObUcDAbEbIbObUcEbGAbEbIbObUcHAbEbIbObUcIbKAbEbIbObUcMAbEbIbObUcNaAbEbIbO
bUcObPAbEbIbObUcRAbEbIbObUcSAbEbIbMALL AbEbIbKAbEcObTUcUbWAbEbIbOcYAbObUhObUcTAbEbIbObUcUbVUcWAbEbIbOcYAbObU
cZAbEbIbObUjVOICED ITERATION MARKzdSTORIC SITEmOCHOdLEbLOW QUILT SQUARE ORNAMENTa IN BLACK SQUAREzrMOTHETICi
NEY POTeBEEgOKcPbRIZONTAL BARcLACK HEXAGONhOCTAGONnELLIPSISiLINE EXTENSIONoMALE WITH STROKE SIGNvONE EIGHT
H BLOCK-1358e2b3b4b5b6b7sSCAN LINE-1b3b7b9lTAB KEYeULATIONa SETdWITH JUSTIFICATIONzdRAFFIC LIGHTvSEa FACEeRA
CINGkSPITALgT BEVERAGEiDOGdPEPPERgSPRINGSiELdURGLASSa WITH FLOWING SANDySEa BUILDINGaSjWITH GARDENqRYVNIA SI
GNlTaJbScUGGING FACEkNDRED POINTS SYMBOLtSHED FACEjTcYGIEAePHENa BULLETgWITH DIAERESISp-MINUSgATION POINToOD
IASTOLEkSTERESIS SYMBOL"

/-- The names that start with I. -/
def namesI : String := "aI LOVE YOU HAND SIGNtCE CREAMeUBEeHOCKEY STICK AND PUCKvSKATEiDENTICAL TOa AND SLANTED PARALLELxWITH DOT AB
OVEsFICATION CARDqOGRAPHIC ANNOTATION BOTTOM MARKlEARTH MARKkFIRST MARKjOUR MARKfTH MARKlHEAVEN MARKlLINKIN
G MARKmMAN MARKhIDDLE MARKlONE MARKiREVERSE MARKmSECOND MARKlTHIRD MARKiREE MARKjOP MARKhWO MARKtCLOSING MAR
KlOMMAfDEPARTING TONE MARKrSCRIPTION CHARACTER ABOVE TO BELOWfMIDDLE AND BELOWzFULL SURROUNDnLEFT TO MIDDL
E AND RIGHTqRIGHTnOVERLAIDiSURROUND FROM ABOVEfBELOWfLEFTdOWER LEFTkUPPER LEFTeRIGHTzwENTERING TONE MARKsFUL
L STOPjHALF FILL SPACEpITERATION MARKoLEVEL TONE MARKpNUMBER ZEROlRISING TONE MARKqSPACEfTALLY MARK FIVEdOUR
eONEdTHREEeWOnELEGRAPH LINE FEED SEPARATOR SYMBOLzbSYMBOL FOR APRILeUGUSTgDAY EIGHTaEENhLEVENgFIFTEENfVEdOUR
aTEENiNINEaTEENiONEdSEVENaTEENiIXaTEENhTENcHIRTEENdYa-ONEiREEeWELVEdNTYa-EIGHTfFIVEdOUReNINEeONEdSEVENeIXdTH
REEeWOiOgECEMBERiFEBRUARYiHOUR EIGHTaEENhLEVENgFIFTEENfVEdOURaTEENiNINEaTEENiONEdSEVENaTEENiIXaTEENhTENcHIRT
EENgREEeWELVEdNTYa-FOUReONEdTHREEeWOiOdZEROjJANUARYgULYcNEeMARCHdYdNOVEMBERiOCTOBERhSEPTEMBERzfVARIATION IND
ICATORzfMAGE OFa OR APPROXIMATELY EQUAL TOzhPaERIAL ARAMAIC LETTER ALEPHeYINeBETHeDALETHgGIMELfHEaTHeKAPHeLA
MEDHgMEMdNUNdPEcQOPHeRESHeSADHEdMEKHfHINeTAWcETHeWAWdYODHeZAYINmNUMBER ONEa HUNDREDhTHOUSANDmTENa THOUSANDlH
REEeWENTYeOkSECTION SIGNzdNBOX TRAYiCOMING ENVELOPEmPLETE INFINITYqREASE FONT SIZE SYMBOLrS AShMENThDaEXa PO
INTING AT THE VIEWERzIAN RUPEE SIGNnC SIYAQ ALTERNATE LAKH MARKtFRACTION ONE HALFeQUARTERlTHREE QUARTERSxLAK
H MARKjNUMBER ALTERNATE ONEdTEN THOUSANDlWOnEIGHTa HUNDREDhTHOUSANDjYa THOUSANDpFIFTYa THOUSANDmVEa HUNDREDh
THOUSANDmORTYa THOUSANDmURa HUNDREDhTHOUSANDnKARORaANhLAKHaANgNINEa HUNDREDhTHOUSANDjTYa THOUSANDpONEa HUNDR
EDhTHOUSANDmPREFIXED EIGHTfFIVEdOUReNINEeONEdSEVENeIXdTHREEeWOmSEVENa HUNDREDhTHOUSANDjTYa THOUSANDpIXa HUND
REDhTHOUSANDjTYa THOUSANDoTENa THOUSANDlHIRTYa THOUSANDnREEa HUNDREDhTHOUSANDnWENTYa THOUSANDnOa HUNDREDhTHO
USANDtPLACEHOLDERlRUPEE MARKuFINITYa NEGATED WITH VERTICAL BARzgORMATION DESK PERSONlSEPARATOR FOUReONEdTHRE
EeWOmOURCEqHIBIT ARABIC FORM SHAPINGtSYMMETRIC SWAPPINGyPUT SYMBOL FOR LATIN CAPITAL LETTERSpLETTERShSMALL L
ETTERStNUMBERShSYMBOLSwSCRIPTIONAL PAHLAVI LETTER ALEPHfBETHeDALETHgGIMELfHEaTHeKAPHeLAMEDHgMEM-QOPHiNUNdPEc
SADHEdMEKHfHINeTAWcETHeWAW-AYIN-RESHnYODHeZAYINmNUMBER FOUReONEa HUNDREDhTHOUSANDmTENcHREEeWENTYeOqRTHIAN LE
TTER ALEPHeYINeBETHeDALETHgGIMELfHEaTHeKAPHeLAMEDHgMEMdNUNdPEcQOPHeRESHeSADHEdMEKHfHINeTAWcETHeWAWdYODHeZAYI
NmNUMBER FOUReONEa HUNDREDhTHOUSANDmTENcHREEeWENTYeOzfERTION SYMBOLoTEGRALa AROUND A POINT OPERATORwVERAGE W
ITH SLASHsEXTENSIONjWITH DOUBLE STROKEnINTERSECTIONmLEFTWARDS ARROW WITH HOOKzOVERBARhTIMES SIGNkUNDERBARgIO
NpRCALATEgIOR PRODUCTlLINEAR ANNOTATION ANCHORgSEPARATORjTERMINATORzcOCKED FEMALE AND MALE SIGNzcROBANGgSECT
IONa ABOVE BAR ABOVE UNIONpUNIONlBESIDE AND JOINED WITH INTERSECTIONzkWITH DOTdLOGICAL ANDlOVERBARxVERSE BUL
LETgCHECK MARKfER BOARD FILLsDOWNWARDS ARROW WITH TIP LEFTWARDSzjMEDIUM SHADEmWHITE CIRCLEpTED EXCLAMATION M
ARKqINTERROBANGlLAZY SfOW KAVYKAa WITH KAVYKA ABOVEzdOHM SIGNiPENTAGRAMjQUESTION MARKnUNDERTIEoISIBLE PLUSeS
EPARATORjTIMESoZAKAYA LANTERN"

/-- The names that start with J. -/
def namesJ : String := "aJACK-O-LANTERNmPANESE BANK SYMBOLlCASTLEgDOLLSfGOBLINgINDUSTRIAL STANDARD SYMBOLzbOGREePOST OFFICElSYMBOL F
OR BEGINNERzbRbVANESE CONSONANT SIGN CAKRAfKERETfPENGKALwDIGIT EIGHTfFIVEdOUReNINEeONEdSEVENeIXdTHREEeWOdZER
OkLEFT RERENGGANmTTER AaIcBAa MURDAiCAa MURDAiDAa MAHAPRANAlDAa MAHAPRANAnEbGAa MURDAiHAcIa KAWIfIcJAa MAHAP
RANAmKAa MURDAfSASAKiLAcMAcNAa MURDAhGAa LELETa RASWADIqYAa MURDAjObPAa CEREKfMURDAiRAa AGUNGiSAa MAHAPRANAi
URDAiTAa MURDAhTAa MAHAPRANAnUbWAcYAjPADA ADEGa ADEGiNDAPfISEN-ISENjLINGSAfUHURdNGSIgMADYAfPANGKATgISELEHhTI
RTA TUMETESnWINDUiNGKONdRANGKEPlRIGHT RERENGGANpSIGN CECAKa TELUkLAYARfPANYANGGAjWIGNYANmTURNED PADA PISELEH
tVOWEL SIGN DIRGA MUREkPEPETfSUKUa MENDUTlTALINGeRUNGfOLONGgWULUa MELIKzeEANSeIGSAW PUZZLE PIECEsOINcYSTICKh
UGGLINGgNOcPITER"

/-- The names that start with K. -/
def namesK : String := "aKAABAdITHI ABBREVIATION SIGNrDANDAeOUBLE DANDAfSECTION MARKtENUMERATION SIGNqLETTER AaAbIbUcBAbHAdCAbHAdDAb
DAbDHAdHAdHAdEbGAbHAdHAcIaIcJAbHAdKAbHAdLAcMAcNAbGAcNAcYAdObPAbHAdRAbHAdSAbHAcSAdTAbHAcTAbHAeUaUcVAcYAjNUMBE
R SIGNa ABOVErSECTION MARKlIGN ANUSVARAiCANDRABINDUlNUKTAfVIRAMAeSARGAmVOWEL SIGN AAbIbUcEbIaIcObUaUcVOCALI
C RzNGAROOeXI RADICAL AGAINeNDcRRIVEdOWeXEdBADGEReMBOOfEANdIGbRDcTTERfLACKdOODdUEdOATcDYcLT OF CLOTHlNEcWcRA
NCHeISTLEfUSHfCARTcULDRONgVEdHILDeITYdLANbWcIFFdOTHESgOLORdMPAREfRPSEeVERdWdDEATHdERdIPPEReSHbTINGUISHjVINAT
IONjO NOTeGbORcTaTED CLIFFfTENTjUBLE XgWN BOXhRAGONeUMcYdEARaTHdTcIGHTeMBROIDERYjNCLOSUREhTEReVENaINGgYEdFAC
EcNGcTHERfEATHERgIELDdGHTdREcSHdLUTEdYcOOTdRAGRANTgOGdURdGATEdHOSTeOa SLOWLYhLDdRAINcSSfHAIRcLBERDeF TREE TR
UNKnNDdEADbRTdMPdIDING ENCLOSUREpOOKcRNbSEfICEcNCHcSECTgJADEcRdKNIFEfLACKcMEdEAFbTHERfEKcGSdIDbFEcNEdONGa ST
RIDElMANcEATcLONeILLETeNISTERhOONcRNINGeTAReUNDbTAINfTHfNETcOSEcTdOLDcNEaSELFgPEN BOXgPOSEgPIGcLOWdOWEReRIVA
TEfOFOUNDiRAINcPbTcEDcICEcGHT OPEN BOXmVEReOOFdUNdSACRIFICIAL WINEoLTcYcCHOLARfRIPTfEALcCONDeEbLFdHEEPcLLdOO
TcRT TAILED BIRDkHREADlICKNESSgLKdKINdLASHcVEdICEeMALLeNOUTeOUNDePEARcECHeIRITeOONdROUTfQUAREfTANDdEAMcPcONE
cPaPINGhUNcWEETfTABLEdLLcNNED LEATHERnENcIGERdLEdONGUEeOTHeRACKdEEcIPODfURBANdTLEfWOa HANDSjUSEdVALLEYfILLAG
EhWALKa ENCLOSUREmTEReEAPONeSTdHEATdITEeINDbEdOMANdRKdRAPcONGfYELLOWsNADA AI LENGTH MARKoDIGIT EIGHTfFIVEdOU
ReNINEeONEdSEVENeIXdTHREEeWOdZEROkLENGTH MARKjTTER AaAbIbUcBAbHAdCAbHAdDAbDAbHAdHAdEaEcFAcGAbHAdHAcIaIcJAbHA
dKAbHAdLAbLAbLAeMAcNAaKAARA POLLUmGAcNAcYAdOaOcPAbHAdRAbRAdSAbHAcSAdTAbHAcTAbHAeUaUcVAbOCALIC LaLcRaRkYAjSIG
N ANUSVARAhVAGRAHAiCANDRABINDUlJIHVAMULIYAlNUKTAfSIDDHAMgPACING CANDRABINDUtUPADHMANIYAlVIRAMAeSARGAmVOWEL S
IGN AAbIbUcEaEcIaIcOaOcUaUcVOCALIC LaLcRaRzcTAKANA DIGRAPH KOTOmITERATION MARKoLETTER AaRCHAIC EbWUcYEbIkBAb
EbIbObUcDAbEbIbObUcEbGAbEbIbObUcHAbEbIbObUcIbKAbEbIbObUcMAbEbIaNNAN NASALIZED TONE-1b2b3b4b5b7b8qTONE-2b3b4b
5b7b8mObUcNaAbEbIbObUcObPAbEbIbObUcRAbEbIbObUcSAbEbIbMALL AbEbHAbEbIbObUcIbKAbEbUcMUcNaUcObRAbEbIbObUcSIbUcT
ObUcUbWAbEbIbOcYAbObUhObUcTAbEbIbObUcUbVAbEbIbObUcWAbEbIbOcYAbObUcZAbEbIbObUjMIDDLE DOTkVOICED ITERATION MAR
Kw-HIRAGANA DOUBLE HYPHENnPROLONGED SOUND MARKuSEMI-VOICED SOUND MARKwVOICED SOUND MARKziYAH LI DIGIT EIGHTf
FIVEdOUReNINEeONEdSEVENeIXdTHREEeWOdZEROkLETTER AbBAcCAcDAcGAcHAbTAdIbKAbHAdLAcMAcNAbGAcYAdOEbOcPAbHAdRAcSAb
HAdTAbHAdVAcWAcYAcZAjSIGN CWIdSHYAjTONE CALYAa PLOPHUmPLOPHUlVOWEL EaEcObUaEqELVIN SIGNjYaBOARDa AND MOUSEpC
AP TENjHAROSHTHI DIGIT FOUReONEdTHREEeWOjFRACTION ONE HALFrLETTER AbBAbHAdCAbHAdDAbDAbHAdHAdGAbHAdHAcJAcKAbH
AcKAdLAcMAcNAbNAcYAdPAbHAdRAcSAbHAcSAdTAbHAcTAbHAcTAbHAfVAbHAdYAcZAjNUMBER ONE HUNDREDhTHOUSANDmTENcWENTYnPU
NCTUATION CIRCLEfRESCENT BARmDANDAeOTbUBLE DANDAmLINESeOTUSfMANGALAMiSMALL CIRCLEySIGN ANUSVARAiBAR ABOVEjCA
UDAfDOT BELOWhUBLE RING BELOWrVISARGAmVIRAMAfOWEL LENGTH MARKlSIGN EbIbObUbVOCALIC RzeITAN SMALL SCRIPT CHAR
ACTER-18B00b1b2b3b4b5b6b7b8b9bAbBbCbDbEbFc10b1b2b3b4b5b6b7b8b9bAbBbCbDbEbFc20b1b2b3b4b5b6b7b8b9bAbBbCbDbEbFc
30b1b2b3b4b5b6b7b8b9bAbBbCbDbEbFc40b1b2b3b4b5b6b7b8b9bAbBbCbDbEbFc50b1b2b3b4b5b6b7b8b9bAbBbCbDbEbFc60b1b2b3b
4b5b6b7b8b9bAbBbCbDbEbFc70b1b2b3b4b5b6b7b8b9bAbBbCbDbEbFc80b1b2b3b4b5b6b7b8b9bAbBbCbDbEbFc90b1b2b3b4b5b6b7b8
b9bAbBbCbDbEbFcA0b1b2b3b4b5b6b7b8b9bAbBbCbDbEbFcB0b1b2b3b4b5b6b7b8b9bAbBbCbDbEbFcC0b1b2b3b4b5b6b7b8b9bAbBbCb
DbEbFcD0b1b2b3b4b5b6b7b8b9bAbBbCbDbEbFcE0b1b2b3b4b5b6b7b8b9bAbBbCbDbEbFcF0b1b2b3b4b5b6b7b8b9bAbBbCbDbEbFdC00
b1b2b3b4b5b6b7b8b9bAbBbCbDbEbFc10b1b2b3b4b5b6b7b8b9bAbBbCbDbEbFc20b1b2b3b4b5b6b7b8b9bAbBbCbDbEbFc30b1b2b3b4b
5b6b7b8b9bAbBbCbDbEbFc40b1b2b3b4b5b6b7b8b9bAbBbCbDbEbFc50b1b2b3b4b5b6b7b8b9bAbBbCbDbEbFc60b1b2b3b4b5b6b7b8b9
bAbBbCbDbEbFc70b1b2b3b4b5b6b7b8b9bAbBbCbDbEbFc80b1b2b3b4b5b6b7b8b9bAbBbCbDbEbFc90b1b2b3b4b5b6b7b8b9bAbBbCbDb
EbFcA0b1b2b3b4b5b6b7b8b9bAbBbCbDbEbFcB0b1b2b3b4b5b6b7b8b9bAbBbCbDbEbFcC0b1b2b3b4b5b6b7b8b9bAbBbCbDbEbFcD0b1b
2b3b4b5pFILLERyMER CURRENCY SYMBOL RIELuDIGIT EIGHTfFIVEdOUReNINEeONEdSEVENeIXdTHREEeWOdZEROkINDEPENDENT VOW
EL LYaYdQAAbIbQbUcEbIaIcOO TYPE ONEdTWOlUaKbUaVeRYaYvLETTER BAcCAbHAbOcOcDAbOcHAcKAbHAbOcOcLAbOcMOcNGOcNOcOb
YOdPHAbOcOcQAcROcSAbHAcSOdTAbHAbOcObTHAbOeVOcYOjSIGN AHSDAeTTHACANhVAKRAHASANYAnBANTOCeRIYOOSANiTHAMASATjEYY
ALgCAMNUC PII KUUHoOENGfKAKABATgHANdOOMUUThLEK TOOhMUUSIKATOANlNIKAHIThPHNAEK MUANlREAHMUKgOBATfSAMYOK SANNY
AnTOANDAKHIATkRIISAPhVIRIAMgYUUKALEAPINTUrYMBOL BEI KOETeROCgUON KOETeROCiDAP KOETeROCe-BEI KOETeROCgUON KOE
TeROCiMUOY KOETeROCiPII KOETeROCgRAM KOETeROCmLEK ATTAK BEIcUONeMUOYePIIcRAMa-BEIcUONeMUOYePIIiSONnMUOY KOET
eROCiPATHAMASATjII KOETeROCgRAM KOETeROCe-BEI KOETeROCgUON KOETeROCiMUOY KOETeROCiPII KOETeROCmTUTEYASATqVOW
EL INHERENT AAbQlSIGN AAbEbIbUcEbIaEbIcOEbOcUaAbUcYaAbYrOJKI ABBREVIATION SIGNrDANDAeOUBLE DANDAfSECTION MAR
KtLETTER AaAbIbUcBAbBAcHAdCAbHAdDAbDAbDAcHAdHAdEbGAbGAcHAdHAcIbJAbJAdKAbHAdLAbLAdMAcNAbGAcNAcYAdObPAbHAdRAcS
AcTAbHAcTAbHAeUbVAcYAjSECTION MARKlIGN ANUSVARAiNUKTAfSHADDAfUKUNfVIRAMAlVOWEL SIGN AAbIbUcEbIaIcObUmWORD SE
PARATORtUDAWADI DIGIT EIGHTfFIVEdOUReNINEeONEdSEVENeIXdTHREEeWOdZEROkLETTER AaAbIbUcBAbBAcHAdCAbHAdDAbDAbDAc
HAdHAdEbGAbGAcHAdHAcIaIcJAbHAcJAdKAbHAdLAcMAcNAbGAcNAcYAdObPAbHAdRAbRAdSAbHAdTAbHAcTAbHAeUaUcVAcYAjSIGN ANUS
VARAiNUKTAfVIRAMAlVOWEL SIGN AAbIbUcEbIaIcObUaUwIMONOeP SIGNgSSa MARKfING CAT FACE WITH CLOSED EYESzFACEa WI
TH CLOSED EYESlSMILING EYESzdTEcWIFRUITiNEELING PERSONnOTdOALAdREAN STANDARD SYMBOLvRONOS"

/-- The names that start with L. -/
def namesL : String := "aL B BAR SYMBOLnAB COATfELdCROSSE STICK AND BALLvDDERdY BEETLEjNGUAGE TAGkO CANCELLATION MARKrDIGIT EIGHTfFI
VEdOUReNINEeONEdSEVENeIXdTHREEeWOdZEROkELLIPSISiHO MOcNOfKO LAfLETTER BOcCOcDOcFO FAYcONdSUNGeTAMgHO SUNGeTA
MgKHMU GOcNYOgO SUNGeTAMgOcLOa LINGdOOThMOcNGOcObYOdObPALI BHAdCHAdDDAbHAdHAdGHAdJHAdLLAdNNAcYAdTTAbHAiHO SU
NGeTAMgOcROcSANSKRIT SHAcSAlO SUNGeTAMgTHO SUNGeTAMgOcWOcYOjNIGGAHITAjSEMIVOWEL SIGN LOcNYOrIGN PALI VIRAMAq
TONE MAI CATAWAgEKcTHOcIlVOWEL SIGN AaAbIbMbYcEaIcIaIcMAI KANcONhObUaUcYaYpRGE BLUE CIRCLEgDIAMONDhSQUAREkRO
WN CIRCLEgSQUAREmCIRCLEgDOWN TACKjGREEN CIRCLEgSQUAREmLEFT TRIANGLE OPERATORwONE DOT OVER TWO DOTS PUNCTUATI
ONzeRING OVER TWO RINGS PUNCTUATIONzjRANGE CIRCLEgDIAMONDhSQUAREnPURPLE CIRCLEgSQUAREnRED CIRCLEgSQUAREkTRIP
LE VERTICAL BAR OPERATORzcWO DOTS OVER ONE DOT PUNCTUATIONzeRINGS OVER ONE RING PUNCTUATIONzkUP TACKhYELLO
W CIRCLEgSQUAREoR THANa OR EQUAL TOuI SIGNhST QUARTER MOONa SYMBOLgWITH FACEzTIN CAPITAL LETTER Aa WITH ACUT
EfBREVEa AND ACUTEfDOT BELOWjGRAVEfHOOK ABOVEkTILDEpCARONeIRCUMFLEXa AND ACUTEfDOT BELOWjGRAVEfHOOK ABOVEkTI
LDEuDIAERESISa AND MACRONtOT ABOVEa AND MACRONqBELOWhUBLE GRAVEmGRAVEfHOOK ABOVEkINVERTED BREVEoMACRONgOGONE
KgRING ABOVEa AND ACUTEpBELOWkSTROKEgTILDElAbEa WITH ACUTEfMACRONnFRICAN DiLPHAeNGLICANA WkObUbVa WITH HORIZ
ONTAL BARvYcBa WITH DOT ABOVEfBELOWjFLOURISHiHOOKeLINE BELOWkSTROKEgTOPBARmETAdROKEN LiCa WITH ACUTEfBARdCAR
ONeEDILLAa AND ACUTEqIRCUMFLEXkDOT ABOVEjHOOKePALATAL HOOKmSTROKEmHIcLOSED INSULAR GpONcUATRILLOa WITH COMMA
uDa WITH CARONeEDILLAgIRCUMFLEX BELOWqDOT ABOVEfBELOWjHOOKeLINE BELOWkSHORT STROKE OVERLAYtMALL LETTER Za WI
TH CARONyTROKEgTOPBARmZa WITH CARONnEa WITH ACUTEfBREVEfCARONeEDILLAa AND BREVEqIRCUMFLEXa AND ACUTEfDOT BEL
OWjGRAVEfHOOK ABOVEkTILDEjBELOWqDIAERESISiOT ABOVEfBELOWhUBLE GRAVEmGRAVEfHOOK ABOVEkINVERTED BREVEoMACRON
a AND ACUTEfGRAVEqOGONEKgSTROKEgTILDEa BELOWrGYPTOLOGICAL AINcLEFrNGcSHcTaHcZHa REVERSEDiWITH CARONoFa WIT
H DOT ABOVEjHOOKeSTROKEnGa WITH ACUTEfBREVEfCARONeEDILLAgIRCUMFLEXkDOT ABOVEjHOOKeMACRONgOBLIQUE STROKEoSTRO
KEmAMMAeHAcLOTTAL AbIbSTOPeUjHa WITH BREVE BELOWlCARONeEDILLAgIRCUMFLEXkDESCENDERiIAERESISiOT ABOVEfBELOWjHO
OKeSTROKEmALF HfENGdWAIRfIa WITH ACUTEfBREVEfCARONeIRCUMFLEXkDIAERESISa AND ACUTEsOT ABOVEfBELOWhUBLE GRAVEm
GRAVEfHOOK ABOVEkINVERTED BREVEoMACRONgOGONEKgSTROKEgTILDEa BELOWrNSULAR DbFbGbRbSbTiOTAdScJa WITH CIRCUMFLE
XjROSSED-TAILmSTROKEnKa WITH ACUTEfCARONeEDILLAhDESCENDERiIAGONAL STROKEoOT BELOWjHOOKeLINE BELOWkOBLIQUE ST
ROKEoSTROKEa AND DIAGONAL STROKEziLa WITH ACUTEfBARcELTeCARONeEDILLAgIRCUMFLEX BELOWqDOT BELOWa AND MACRONsU
BLE BARkHIGH STROKElLINE BELOWkMIDDLE DOTdTILDEmSMALL LETTER JnTROKEmJcMa WITH ACUTEfDOT ABOVEfBELOWjHOOKkID
DLE SCOTS Si-WELSH LLcVoNa WITH ACUTEfCARONeEDILLAgIRCUMFLEX BELOWqDESCENDERiOT ABOVEfBELOWjGRAVEfLEFT HOOKi
INE BELOWjONG RIGHT LEGoOBLIQUE STROKEoSMALL LETTER JoTILDElJcOa WITH ACUTEfBREVEfCARONeIRCUMFLEXa AND ACUTE
fDOT BELOWjGRAVEfHOOK ABOVEkTILDEuDIAERESISa AND MACRONtOT ABOVEa AND MACRONqBELOWhUBLE ACUTEfGRAVEmGRAVEfHO
OK ABOVEiRNa AND ACUTEfDOT BELOWjGRAVEfHOOK ABOVEkTILDEoINVERTED BREVEoLONG STROKE OVERLAYrOPeMACRONa AND AC
UTEfGRAVEpIDDLE TILDEmOGONEKa AND MACRONrSTROKEa AND ACUTEqTILDEa AND ACUTEfDIAERESISjMACRONwIbLD POLISH OlM
EGAeObPEN EbOfUcPa WITH ACUTEfDOT ABOVEjFLOURISHiHOOKeSQUIRREL TAILmTROKEa THROUGH DESCENDERzgQa WITH DIAGON
AL STROKEpSTROKE THROUGH DESCENDERzgRa ROTUNDAhWITH ACUTEfCARONeEDILLAhDOT ABOVEfBELOWa AND MACRONsUBLE GRAV
EmINVERTED BREVEoLINE BELOWkOBLIQUE STROKEoSTROKEgTAILkEVERSED C WITH DOTkEbHALF HgOPEN EoUM ROTUNDAlSa WIT
H ACUTEa AND DOT ABOVEtCARONa AND DOT ABOVEsEDILLAgIRCUMFLEXjOMMA BELOWlDOT ABOVEfBELOWa AND DOT ABOVExHOOKe
OBLIQUE STROKEoSHORT STROKE OVERLAYtWASH TAILqALTILLOhCHWAdRIPT GhHARP SgIGMOID SiMALL CAPITAL IjQ WITH HOO
K TAILwTa WITH CARONeEDILLAgIRCUMFLEX BELOWpOMMA BELOWlDIAGONAL STROKEoOT ABOVEfBELOWjHOOKeLINE BELOWkRETROF
LEX HOOKoSTROKEmHORNa WITH STROKEa THROUGH DESCENDERzjONE FIVEeSIXdTWOhRESILLOhURNED AaLPHAfHbINSULAR GjKbLb
MbTbVhZcUa BARdWITH ACUTEfBREVEfCARONeIRCUMFLEXa BELOWqDIAERESISa AND ACUTEfCARONfGRAVEfMACRONkBELOWoOT BELO
WhUBLE ACUTEfGRAVEmGRAVEfHOOK ABOVEiRNa AND ACUTEfDOT BELOWjGRAVEfHOOK ABOVEkTILDEoINVERTED BREVEoMACRONa AN
D DIAERESISuOGONEKgRING ABOVEkSTROKEgTILDEa AND ACUTEjBELOWrPSILONhVa WITH DIAGONAL STROKEoOT BELOWjHOOKeTIL
DElENDdISIGOTHIC ZlOLAPUK AEcOEcUEjYcWa WITH ACUTEfCIRCUMFLEXkDIAERESISiOT ABOVEfBELOWjGRAVEfHOOKkYNNeXa WIT
H DIAERESISiOT ABOVEqYa WITH ACUTEfCIRCUMFLEXkDIAERESISiOT ABOVEfBELOWjGRAVEfHOOKa ABOVEkLOOPeMACRONgSTROKEg
TILDElOGHeZa WITH ACUTEfCARONeIRCUMFLEXkDESCENDERiOT ABOVEfBELOWjHOOKeLINE BELOWkPALATAL HOOKmSTROKEfWASH TA
ILxIGATURE IJcOEsROSSfEPIGRAPHIC LETTER ARCHAIC MjI LONGAgNVERTED MkREVERSED FbPkSIDEWAYS IzdLETTER AINcLVEO
LAR CLICKoBIDENTAL PERCUSSIVErLABIAL CLICKfPERCUSSIVEtDENTAL CLICKmGLOTTAL STOPa WITH STROKEyINVERTED GLOTTA
L STOPa WITH CURLeSTROKEziLATERAL CLICKnPHARYNGEAL VOICED FRICATIVEzcRETROFLEX CLICKa WITH RETROFLEX HOOKziV
ERSED ESH LOOPiGLOTTAL STOP WITH STROKEziSINOLOGICAL DOToMALL CAPITAL AaEcBaARRED BiCbDbEaTHcZHdFbGa WITH HO
OKlHbIaNVERTED RkJbKbLa WITH BELTeSTROKEnMbNbOaEbPEN OfUcPbQbRa WITH RIGHT LEGpEVERSED NbRjUMdSbTaURNED EbGb
KbMbRiUbVbWbYbZoTRETCHED Ca WITH CURLvTWO WITH STROKEpVOICED LARYNGEAL SPIRANTyWYNNeYRjSMALL CAPITAL LETTE
R I WITH STROKEnU WITH STROKEzdLETTER Aa REVERSED-SCHWAoWITH ACUTEfBREVEa AND ACUTEfDOT BELOWjGRAVEfHOOK ABO
VEkTILDEpCARONeIRCUMFLEXa AND ACUTEfDOT BELOWjGRAVEfHOOK ABOVEkTILDEuDIAERESISa AND MACRONtOT ABOVEa AND MAC
RONqBELOWhUBLE GRAVEmGRAVEfHOOK ABOVEkINVERTED BREVEoMACRONgOGONEKgRETROFLEX HOOKnIGHT HALF RINGnNG ABOVEa A
ND ACUTEpBELOWkSTROKEgTILDElAbEa WITH ACUTEfMACRONnLPHAa WITH RETROFLEX HOOKyNGLICANA WkObUbVa WITH HORIZONT
AL BARvYcBa WITH DOT ABOVEfBELOWjFLOURISHiHOOKeLINE BELOWkMIDDLE TILDEmPALATAL HOOKmSTROKEgTOPBARmARRED ALPH
AfEbOgSELINE ESHlETAdLACKLETTER EbOa WITH STROKEyOTTOM HALF OmROKEN LiCa WITH ACUTEfBARdCARONeEDILLAa AND AC
UTEqIRCUMFLEXjURLeDOT ABOVEjHOOKePALATAL HOOKmRETROFLEX HOOKoSTROKEmHIa WITH LOW LEFT SERIFkRIGHT RINGwLOSE
D INSULAR GjOMEGAePEN EgREVERSED OPEN EvONcUATRILLOa WITH COMMAuDa WITH CARONeEDILLAgIRCUMFLEX BELOWpURLeDO
T ABOVEfBELOWjHOOKa AND TAILnLINE BELOWkMIDDLE TILDEmPALATAL HOOKmSHORT STROKE OVERLAYtTROKEgTAILdOPBARmB DI
GRAPHjELTAdZH DIGRAPHa WITH PALATAL HOOKmRETROFLEX HOOKzgOTLESS IbJa WITH STROKEa AND HOOKzdUBLE Ra WITH CRO
SSED-TAILtTHORNfWYNNkUMcZa DIGRAPHa WITH CURLeRETROFLEX HOOKzcWITH CARONnEa WITH ACUTEfBREVEfCARONeEDILLAa A
ND BREVEqIRCUMFLEXa AND ACUTEfDOT BELOWjGRAVEfHOOK ABOVEkTILDEjBELOWqDIAERESISiOT ABOVEfBELOWhUBLE GRAVEmFLO
URISHiGRAVEfHOOK ABOVEkINVERTED BREVEoMACRONa AND ACUTEfGRAVEqNOTCHfOGONEKgRETROFLEX HOOKoSTROKEgTILDEa BELO
WrGYPTOLOGICAL AINcLEFrNGa WITH CROSSED-TAILmPALATAL HOOKuSHa WITH CURLeDOUBLE BARa AND CURLtPALATAL HOOKmRE
TROFLEX HOOKwTaHcZHa REVERSEDiWITH CARONeURLePALATAL HOOKmRETROFLEX HOOKoTAILnFa WITH DOT ABOVEjHOOKeMIDDL
E TILDEmPALATAL HOOKmSTROKEmENG DIGRAPHa WITH TRILLxGa WITH ACUTEfBREVEfCARONeEDILLAgIRCUMFLEXkDOT ABOVEjHOO
KeMACRONgOBLIQUE STROKEoPALATAL HOOKmSTROKEmAMMAeHAcLOTTAL AbIbSTOPeUjHa WITH BREVE BELOWlCARONeEDILLAgIRCUM
FLEXkDESCENDERiIAERESISiOT ABOVEfBELOWjHOOKeLINE BELOWkPALATAL HOOKmSTROKEmALF HfENGa WITH HOOKnVcIa WITH AC
UTEfBREVEfCARONeIRCUMFLEXkDIAERESISa AND ACUTEsOT BELOWhUBLE GRAVEmGRAVEfHOOK ABOVEkINVERTED BREVEoMACRONgOG
ONEKgRETROFLEX HOOKoSTROKEa AND RETROFLEX HOOKzTILDEa BELOWrNSULAR DbFbGbRbSbThVERTED ALPHAfOEkOTAa WITH STR
OKEnIFIED EjScJa WITH CARONeIRCUMFLEXjROSSED-TAILmSTROKEnKa WITH ACUTEfCARONeEDILLAhDESCENDERiIAGONAL STROKE
oOT BELOWjHOOKeLINE BELOWkOBLIQUE STROKEoPALATAL HOOKmSTROKEa AND DIAGONAL STROKEzhRAdLa WITH ACUTEfBARcELT
a AND PALATAL HOOKvCARONeEDILLAgIRCUMFLEX BELOWpURLeDOT BELOWa AND MACRONsUBLE BARdMIDDLE TILDEtFISHHOOKiHIG
H STROKElINVERTED LAZY SpLINE BELOWkMIDDLE DOTdRINGeTILDEmPALATAL HOOKmRETROFLEX HOOKa AND BELTxSTROKEmAMBD
A WITH STROKErENIS FfZHa WITH RETROFLEX HOOKxJbONG Sa WITH DIAGONAL STROKEoOT ABOVEjHIGH STROKEwS DIGRAPHjUM
cZ DIGRAPHkMa WITH ACUTEfCROSSED-TAILmDOT ABOVEfBELOWjHOOKeMIDDLE TILDEmPALATAL HOOKsIDDLE SCOTS Si-WELSH LL
cVnUMdNa PRECEDED BY APOSTROPHEwWITH ACUTEfCARONeEDILLAgIRCUMFLEX BELOWpROSSED-TAILlURLeDESCENDERiOT ABOVEfB
ELOWjGRAVEfLEFT HOOKiINE BELOWjONG RIGHT LEGoMIDDLE TILDEmOBLIQUE STROKEoPALATAL HOOKmRETROFLEX HOOKoTILDElJ
bUMdOa WITH ACUTEfBREVEfCARONeIRCUMFLEXa AND ACUTEfDOT BELOWjGRAVEfHOOK ABOVEkTILDEuDIAERESISa AND MACRONtO
T ABOVEa AND MACRONqBELOWhUBLE ACUTEfGRAVEmGRAVEfHOOK ABOVEiRNa AND ACUTEfDOT BELOWjGRAVEfHOOK ABOVEkTILDEoI
NVERTED BREVEoLONG STROKE OVERLAYrOPcW RING INSIDEpMACRONa AND ACUTEfGRAVEqOGONEKa AND MACRONrRETROFLEX HOOK
oSTROKEa AND ACUTEqTILDEa AND ACUTEfDIAERESISjMACRONwIbLD POLISH OlMEGAeObPEN Ea WITH RETROFLEX HOOKvOa WIT
H RETROFLEX HOOKoSTROKEmEgUcPa WITH ACUTEfDOT ABOVEjFLOURISHiHOOKeMIDDLE TILDEmPALATAL HOOKmSQUIRREL TAILmTR
OKEa THROUGH DESCENDERzfHIdQa WITH DIAGONAL STROKEpHOOKa TAILjSTROKE THROUGH DESCENDERzfP DIGRAPHkRa ROTUNDA
hWITH ACUTEfCARONeEDILLAgROSSED-TAILmDOT ABOVEfBELOWa AND MACRONsUBLE GRAVEmFISHHOOKa AND MIDDLE TILDEmPALAT
AL HOOKzINVERTED BREVEoLINE BELOWjONG LEGiMIDDLE TILDEmOBLIQUE STROKEoPALATAL HOOKmSTROKEgTAILfOUT HANDLEpAM
S HORNiEVERSED Ca WITH DOTkEaNGdHALF HgKbOPEN Ea WITH HOOKeRETROFLEX HOOKzbR WITH FISHHOOKpSCRIPT GqUMa ROTU
NDAlSa WITH ACUTEa AND DOT ABOVEtCARONa AND DOT ABOVEsEDILLAgIRCUMFLEXjOMMA BELOWkURLeDOT ABOVEfBELOWa AND D
OT ABOVExHOOKeMIDDLE TILDEmOBLIQUE STROKEoPALATAL HOOKmSHORT STROKE OVERLAYtWASH TAILqAKHA YAThLTILLOhCHWA
a WITH HOOKeRETROFLEX HOOKxRIPT Ga WITH CROSSED-TAILtRa WITH RINGrHARP SgIDEWAYS DIAERESIZED UnOa WITH STROK
EmPEN OgTURNED MiUiGMOID SiQUAT REVERSED ESHrTIRRUP RjTa WITH CARONeEDILLAgIRCUMFLEX BELOWpOMMA BELOWkURLeDI
AERESISgGONAL STROKEoOT ABOVEfBELOWjHOOKa AND RETROFLEX HOOKxLINE BELOWkMIDDLE TILDEmPALATAL HOOKmRETROFLE
X HOOKoSTROKEmAILLESS PHIlC DIGRAPH WITH CURLtESH DIGRAPHa WITH PALATAL HOOKmRETROFLEX HOOKzgH WITH STRIKETH
ROUGHtORNa WITH STROKEa THROUGH DESCENDERzjONE FIVEeSIXdTWOgP HALF OjRESILLOhS DIGRAPHa WITH RETROFLEX HOOKz
eUMbRNED AaEbLPHAfDELTAfEbGbHa WITH FISHHOOKa AND TAILyIaNSULAR GjKbLbMa WITH LONG LEGpO OPEN-Oa WITH STROKE
tEa WITH HORIZONTAL STROKErSTROKEnPEN EgRa WITH HOOKeLONG LEGa AND RETROFLEX HOOKzcMIDDLE TILDEmPALATAL HOOK
mTAILlTa WITH CURLlUIcVbWbYa WITH BELTrZcUa BARa WITH SHORT RIGHT LEGyWITH ACUTEfBREVEfCARONeIRCUMFLEXa BELO
WqDIAERESISa AND ACUTEfCARONfGRAVEfMACRONkBELOWoOT BELOWhUBLE ACUTEfGRAVEmGRAVEfHOOK ABOVEiRNa AND ACUTEfDO
T BELOWjGRAVEfHOOK ABOVEkTILDEoINVERTED BREVEoLEFT HOOKjMACRONa AND DIAERESISuOGONEKgRETROFLEX HOOKnING ABOV
EkSHORT RIGHT LEGoTROKEgTILDEa AND ACUTEjBELOWrEbIbMbObPSILONa WITH STROKEtVa WITH CURLeDIAGONAL STROKEoOT B
ELOWjHOOKePALATAL HOOKmRIGHT HOOKkTILDElENDdISIGOTHIC ZlOLAPUK AEcOEcUEjYcWa WITH ACUTEfCIRCUMFLEXkDIAERESIS
iOT ABOVEfBELOWjGRAVEfHOOKeRING ABOVErXa WITH DIAERESISiOT ABOVEjLONG LEFT LEGa AND LOW RIGHT RINGsWITH SERI
FwW RIGHT RINGoPALATAL HOOKtYa WITH ACUTEfCIRCUMFLEXkDIAERESISiOT ABOVEfBELOWjGRAVEfHOOKa ABOVEkLOOPeMACRONg
RING ABOVEkSHORT RIGHT LEGoTROKEgTILDElOGHeZa WITH ACUTEfCARONeIRCUMFLEXjURLeDESCENDERiOT ABOVEfBELOWjHOOKeL
INE BELOWkMIDDLE TILDEmPALATAL HOOKmRETROFLEX HOOKoSTROKEfWASH TAILxIGATURE FFaIbLcIbLcIJcLONG S TiOEcSTqUBS
CRIPT SMALL LETTER AbEbHbIbJbKbLbMbNbObPbRbSaCHWAfTbUbVbXzeEAF FLUTTERING IN WINDtY GREENjDGEReFT AND LOWE
R AND RIGHT TRIANGULAR THREE QUARTERS BLOCKzqONE EIGHTH BLOCKwRIGHT DOUBLE TURNSTILEqTACKdRIANGULAR HALF BLO
CKzcUPPER AND RIGHT TRIANGULAR THREE QUARTERS BLOCKzqONE EIGHTH BLOCKyGER BUBBLEjLE BRACKETa WITH DOTvRC LES
S-THAN BRACKETtROW WITH CIRCLED PLUSmSMALL CIRCLExBARB DOWN RIGHT BARB DOWN HARPOONmUP HARPOONzbUP RIGHT BAR
B DOWN HARPOONmUP HARPOONzdLACK LENTICULAR BRACKETsTORTOISE SHELL BRACKETzdCEILINGgLOSED ENTRYlORNER BRACKET
nURLY BRACKETa LOWER HOOKkMIDDLE PIECEmUPPER HOOKyDOTTED SUBSTITUTION BRACKETzUBLE ANGLE BRACKETnPARENTHESIS
lQUOTATION MARKoWIGGLY FENCEtFISH TAILhVE EIGHTHS BLOCKrLOORfHALF BLACK CIRCLEgSTARiOCKfCIRCLEa WITH DOTdFOU
R DOTSjTHREE DOTSjWO DOTSuFOLDERgINVERSE MEDIUM SHADE AND RIGHT HALF BLOCKzqMEDIUM SHADEmRUNNING MANoND TELE
PHONE RECEIVERxLOW PARAPHRASE BRACKETvUGGAGEhMULTIMAPiNORMAL FACTOR SEMIDIRECT PRODUCTzhONE EIGHTH BLOCKmQUA
RTER BLOCKqUTER JOINkPARENTHESISa EXTENSIONjLOWER HOOKkUPPER HOOKwRAISED OMISSION BRACKETwIGHT ARROWa THROUG
H SMALL CIRCLEuWITH DOUBLE VERTICAL STROKEwSTROKEgVERTICAL STROKEzbBLACK ARROWlDOUBLE ARROWa WITH STROKEgVER
TICAL STROKEziOPEN-HEADED ARROWrSANS-SERIF ARROWqTRIANGLE-HEADED ARROWvWAVE ARROWjHITE ARROWrS-SHAPED BAG DE
LIMITERvEMIDIRECT PRODUCTqVEN EIGHTHS BLOCKsIDEWAYS U BRACKETqNGLE QUOTATION MARKuPEECH BUBBLEmQUARE BRACKET
a EXTENSIONjLOWER CORNERmUPPER CORNERmWITH DOUBLE STROKEnQUILLfSTROKEgTICK IN BOTTOM CORNERnTOP CORNERsUNDER
BARzcUBSTITUTION BRACKETuTACKdHIRD WHITE RIGHT POINTING INDEXzfOUGHT BUBBLEmREE EIGHTHS BLOCKnQUARTERS BLOCK
tORTOISE SHELL BRACKETvRANSPOSITION BRACKETtIANGLE BESIDE VERTICAL BARwULAR ONE QUARTER BLOCKzdVERTICAL BA
R WITH QUILLnOX LINErWHITE CORNER BRACKETnURLY BRACKETnLENTICULAR BRACKETsPARENTHESISlSQUARE BRACKEToTORTOIS
E SHELL BRACKETzcIGGLY FENCElRITING HANDn-FACING ARMENIAN ETERNITY SIGNwFISTeSVASTI SIGNa WITH DOTSzdHANDE
D INTERLACED PENTAGRAMzcPOINTING ANGLE BRACKETnCURVED ANGLE BRACKETuDOUBLE ANGLE QUOTATION MARKzcMAGNIFYIN
G GLASSzSHADED WHITE RIGHTWARDS ARROWzdIDE ARC ANTICLOCKWISE ARROWzdTO-RIGHT EMBEDDINGjISOLATEhMARKeOVERRIDE
sWARDS ARROWa ABOVE ALMOST EQUAL TOpREVERSE ALMOST EQUAL TOpTILDE OPERATORwSHORT RIGHTWARDS ARROWwTILDE OPER
ATORtND UPPER AND LOWER ONE EIGHTH BLOCKzlFROM BARa TO BLACK DIAMONDzOVER RIGHTWARDS ARROWvTHROUGH LESS-THAN
jSUBSETgXiO BARa OVER RIGHTWARDS ARROW TO BARzgLACK DIAMONDqWITH DOTTED STEMjUBLE VERTICAL STROKEwEQUILATERA
L ARROWHEADvHOOKeLARGE TRIANGLE ARROWHEADxOOPeMEDIUM TRIANGLE ARROWHEADzNOTCHED TAILmPLUS BELOWkSMALL EQUILA
TERAL ARROWHEADvTRIANGLE ARROWHEADxTROKEgTAILa WITH DOUBLE VERTICAL STROKEwVERTICAL STROKEyIP DOWNWARDSjUPWA
RDSlVERTICAL STROKEv-TAILkBACK-TILTED SHADOWED WHITE ARROWzgLACK ARROWfCIRCLED WHITE ARROWyOTTOM-SHADED WHIT
E ARROWzCOMPRESSED ARROWqDASHED ARROWlOUBLE ARROWa FROM BARiWITH STROKEgVERTICAL STROKEv-TAILkDASH ARROWrFIN
GER-POST ARROWqRONT-TILTED SHADOWED WHITE ARROWziHANDcRPOON OVER RIGHTWARDS HARPOONxWITH BARB DOWN ABOVE RIG
HTWARDS HARPOON WITH BARB DOWNzoBELOW LONG DASHpFROM BARiTO BARhWARDSjUP ABOVE LEFTWARDS HARPOON WITH BARB D
OWNzgONG DASHjRIGHTWARDS HARPOON WITH BARB UPzmFROM BARiTO BARhWARDSyEAVY ARROWfCOMPRESSED ARROWwLEFT-SHADE
D WHITE ARROWxOPEN-HEADED ARROWrPAIRED ARROWSnQUADRUPLE ARROWpRIGHT-SHADED WHITE ARROWxOCKETgSANS-SERIF ARRO
WpQUARED ARROWkIGGLE ARROWoTOP SHADED WHITE ARROWvRIANGLE ARROWHEADk-HEADED ARROWa OVER RIGHTWARDS TRIANGLE-
HEADED ARROWzmTO BARgWITH BOLD SHAFTkDOUBLE HORIZONTAL STROKErVERTICAL STROKEwHEAVY SHAFTlLONG TIP DOWNWARDS
jUPWARDSqMEDIUM SHAFTmNARROW SHAFTmVERY HEAVY SHAFTzcDASHED ARROWmPAIRED ARROWSzbPLE ARROWfDASH ARROWqWO HEA
DED ARROWn-HEADED ARROW FROM BARiWITH DOUBLE VERTICAL STROKEwTAILa WITH DOUBLE VERTICAL STROKEwVERTICAL STRO
KEyRIANGLE ARROWHEADStVERTICAL STROKEzbTRIPLE DASH ARROWzdWAVE ARROWjHITE ARROWa WITHIN TRIANGLE ARROWHEADzu
GbMONdOaPARDfPCHA CONSONANT SIGN KaANGeLbMbNaYIN-DOhPbRbTqDIGIT EIGHTfFIVEdOUReNINEeONEdSEVENeIXdTHREEeWOdZE
ROkLETTER AbBAbLAdCAbHAdDAbDAcZAdFAbLAdGAbLAdHAbLAdJAcKAbHAcLAdLAcMAbLAdNAbGAcYAdPAbHAcLAdRAcSAbHAdTAbHAcSAb
HAdTAbHAeVAcWAcYAjPUNCTUATION CER-WAgNYET THYOOM TA-ROLsTA-ROLfSHOOKa CER-WAzSIGN NUKTAfRANhUBJOINED LETTE
R RAcYAtVOWEL SIGN AAcEbIbOaOcUaUsSS-THAN ABOVE DOUBLE-LINE EQUAL ABOVE GREATER-THANzlGREATER-THAN ABOVE DOU
BLE-LINE EQUALzlLEFTWARDS ARROWpSIMILAR ABOVE GREATER-THANsOR EQUALpLANTED EQUAL ABOVE GREATER-THAN ABOVE SL
ANTED EQUALzzhND NOT APPROXIMATEpSINGLE-LINE NOT EQUAL TOzdBUT NOT EQUAL TOfIVALENT TOvCLOSED BY CURVEa ABOV
E SLANTED EQUALzkEQUAL TO OR GREATER-THANyOR APPROXIMATElEQUAL TOfIVALENT TOnGREATER-THANmSLANTED EQUAL TO
a WITH DOT ABOVEa RIGHTlINSIDEzjVER EQUAL TOnSIGNeWITH CIRCLE INSIDEnDOTdQUESTION MARK ABOVEzhVEL SLIDERlFbI
BRAdGATURE OPEN ET ORNAMENTwHT CHECK MARKkEIGHT SPOKED ASTERISKvFIVE POINTED BLACK STARsSPOKED ASTERISKtOU
R POINTED BLACK CUSPeSTARxGREEK CROSSlLEFT TORTOISE SHELL BRACKET ORNAMENTzlRAILdIGHT TORTOISE SHELL BRACKE
T ORNAMENTzmSALTIREgHADEeIX SPOKED ASTERISKtTHREE POINTED BLACK STARxWELVE POINTED BLACK STARzVERTICAL BARmW
HITE SQUAREnNINGa MOODa BUBBLEtMBU DIGIT EIGHTfFIVEdOUReNINEeONEdSEVENeIXdTHREEeWOdZEROkEXCLAMATION MARKqLET
TER BAbHAdCAbHAdDAbHAdGAbHAcYANeHAcJAbHAdKAbHAdLAcMAcNAbGAdPAbHAdRAcSAbHAcSAdTAbHAcRAdWAcYAaNkQUESTION MARKn
SIGN KEMPHRENGjLOOdMUKPHRENGjSA-IiMALL LETTER ANUSVARAiKAcLAcMAcNAbGAdPAcRAcTAoUBJOINED LETTER RAcWAcYAtVOWE
L SIGN AaIbUcEaEcIbOaOcUh-CARRIER LETTERxITED LIABILITY SIGNuNE FEEDeINTEGRATION NOT INCLUDING THE POLEwWIT
H RECTANGULAR PATH AROUND POLEzdSEMICIRCULAR PATH AROUND POLEzvSEPARATORjTABULATIONa SETpAR A SIGN A028Be100
-102g20Bd31Ce301b2b3b4b5b6b7b8b9AbBbCd10b1b2b3AbBbCc4b5b6b7b8b9c20b1b2b3b4b5b6b7b8b9c30b1b2b3b4b5b6b7b8b9c40
b1b2b3b4b5b6b7b8b9c50b1b2b3b4b5b6b7b8b9c60b1b2b3b4b5b6b7b8b9c70b1d400-VASf1-VASf2-VASf3-VASf4-VASf5-VASf6-VA
Sf7-VASf8-VASf9-VASg10-VASf1-VASf2-VASf3-VASf4-VASf5-VASf6-VASf7-VASf8-VASh501b2b3b4b5b6b8b9c10b1b2b3b5b6c20
b1b3b4b5b6b7b8b9c30b1b2b4b5b6b7b8b9c40b1b2b5b7b8b9c50b1b2b3b4b5b6b7b9c63b4b5b6b8b9c70b1b2b3b4b5b6b7b8b9c80b1
b2b3b4b5b6b7b8b9c91b2b4b5b6b8d600b1b2b3b4b6b8b9c10b1b2b3b4b5b6b7b8b9c20b1b2b3b4b6b7b8b9c34b7b8c40b2b3b4b5b6b
8b9c51b2b3b4b5b6b7b8b9c60b1b2b3b4d701 Ad2 Bd3 Dd4 Ed5 Fd6 Hd7 Jd8 Kd9 Lc-2 L2e3 L3e4 L4e6 L6h10 Wd1 Xd2 Yd
3 OMEGAh4 ABBf5 BBe7 DDf26 EYYYh32 JEg800b1b2b3b4b5b6b7dB001b2b3b4b5b6b7b8b9c10b1b3b6b7c20b1aFbMc2aFbMc3aMc4
b6b7b8b9c30b1b4b7b8b9c40b1b4b5b6b7b8b9c50b1b3b4b5b6b7b8b9c60b1b5b6b7b9c70b3b4b6b7b8b9c80b1b2b5b6b7d118c20b2b
3c31AbBd64c71c80b8c91mB IDEOGRAM B100 MANf2 WOMANh4 DEERg5 EQUIDgF MAREgM STALLIONl6F EWEfM RAMg7F SHE-GOATk
M HE-GOATk8F SOWfM BOARh9F COWfM BULLi20 WHEATh1 BARLEYi2 OLIVEh3 SPICEh5 CYPERUSk30 OILf1 WINEg2c40 BRONZEi
1 GOLDg2b5 WOOLg6c50b1 HORNg2b3b4b7b8b9 CLOTHi60b1b2 GARMENTj3 ARMOURi4b5b6b7b8b9c70b1b2b3 MONTHh4b6 TREEg7b
8b9c80b1b2b3b4b5b9c90b1 HELMETk220 FOOTSTOOLl5 BATHTUBk30 SPEARh1 ARROWh2b3 SWORDh4b6c40 WHEELED CHARIOTr1 C
HARIOTj2 CHARIOT FRAMEp3 WHEELh5b6b8b9c51b2b3b4 DARTg5b6b7b8b9eVESSEL B155d200b1b2b3b4b5b6b7b8b9c10b1b2b3b4b
5b6b7b8b9c21b2b6b7b8b9c50d305uMONOGRAM B127 KAPOg8 KANAKOj33 AREPAh5 MERIh56 TURO2j247 DIPTEtSYLLABLE B001 D
Ae2 ROe3 PAe4 TEe5 TOe6 NAe7 DIe8 Ad9 SEf10 Ud1 POe2 SOe3 MEe4 DOe5 MOe6 QAe7 ZAf20 ZOe1 QIe3 MUe4 NEe5 A2e
6 RUe7 REe8 Id9 PU2g30 NIe1 SAe2 QOe3 RA3f6 JOe7 TIe8 Ed9 PIf40 WIe1 SIe2 WOe3 A3e4 KEe5 DEe6 JEe8 NWAg50 PU
e1 DUe2 NOe3 RIe4 WAe5 NUe7 JAe8 SUe9 TAf60 RAe1 Od2 PTEf5 JUe6 TA2f7 KIe8 RO2f9 TUf70 KOe1 DWEf2 PEe3 MIe
4 ZEe5 WEe6 RA2f7 KAe8 QEf80 MAe1 KUe5 AUe7 TWEg90 DWOf1 TWOpMBOL B018b9c22c34c47b9c56c63b4c79c82b3b6b9rK SY
MBOLhED PAPERCLIPSpON FACEhPSaTICKgRA SIGNhSU LETTER AaEcBAcCAbHAdDAbZAdEaUcFAcGAbHAdHAbHAdIbJAcKAbHAdLAcMAc
NAbGAdOaEcPAbHAdSAbHAdTAbHAcONE MYA BOcCYAdJEUdNAcTIgNA POjSAbHAeUaEbHcWAcXAcYAbHAdZAbHAkPUNCTUATION COMMAfF
ULL STOPyVRE TOURNOIS SIGNrZARDfLAMAeOBSTERfCKa WITH INK PENnING-SHIFT ONEdZEROqGICAL ANDa WITH DOT ABOVEhUB
LE OVERBARhUNDERBARpHORIZONTAL DASHpMIDDLE STEMlUNDERBARrORa OVERLAPPING LOGICAL ANDxWITH DOT ABOVEhUBLE OVE
RBARhUNDERBARpHORIZONTAL DASHpMIDDLE STEMzLLIPOPgNG DASH FROM LEFT MEMBER OF DOUBLE VERTICALzoIVISIONhRUMeLE
FT RIGHT ARROWfDOUBLE ARROWsTACKfWARDS ARROWa FROM BARoDOUBLE ARROWa FROM BARvSQUIGGLE ARROWyRIGHT TACKfWARD
S ARROWa FROM BARoDOUBLE ARROWa FROM BARvSQUIGGLE ARROWzdTION BOTTLEkUSdUDLY CRYING FACEqVE HOTELfLETTERjW A
STERISKiBATTERYgRIGHTNESS SYMBOLrDOUBLE PRIME QUOTATION MARKzcKAVYKAa WITH DOTpLINEfER BLADE SCISSORSoFIVE E
IGHTHS BLOCKsHALF BLOCKfCIRCLEgINVERSE WHITE CIRCLEuMEDIUM SHADErLEFT BALLPOINT PENmLOCK DIAGONAL LOWER MIDD
LE LEFT TO LOWER CENTREgRIGHTzhUPPER CENTRE TO LOWER MIDDLE RIGHTmRIGHTlUPPER MIDDLE RIGHTzdLEFT TO LOWER CE
NTREgMIDDLE RIGHTsUPPER MIDDLE RIGHTzbMIDDLE LEFT TO LOWER CENTREgMIDDLE RIGHTmRIGHTzwCRAYONgFOUNTAIN PENmPA
INTBRUSHjENCILgQUADRANT CIRCULAR ARCvSEMICIRCULAR ANTICLOCKWISE ARROWzhTRIANGLEcULAR MEDIUM SHADEzdONE EIGHT
H BLOCKmQUARTER BLOCKrRIGHT BLOCK DIAGONAL LOWER CENTRE TO LOWER MIDDLE RIGHTsUPPER MIDDLE RIGHTmRIGHTvLEF
T TO LOWER MIDDLE RIGHTsUPPER CENTREgMIDDLE RIGHTzbMIDDLE LEFT TO UPPER CENTREgMIDDLE RIGHTmRIGHTzhUPPER MID
DLE LEFT TO UPPER CENTREgRIGHTzwCORNER WITH DOTpDROP-SHADOWED WHITE SQUAREzbPENCILgQUADRANT CIRCULAR ARCvSEM
ICIRCULAR CLOCKWISE ARROWzcHADOWED WHITE CIRCLEgSQUAREvTRIANGLEcULAR MEDIUM SHADEzeSEVEN EIGHTHS BLOCKtTHRE
E EIGHTHS BLOCKnQUARTERS BLOCKtRIANGULAR ONE QUARTER BLOCKzhZENGEa DIVIDED BY HORIZONTAL RULEziREbIbMbOcUGGA
GEfNGSeYCIAN LETTER AaNcBaHcDbEaNcGbHbIbJbKaKcLbMaMcNaNcPbQbRbSbTaHbTcUbWbXbZnDIAN LETTER AaNcBbCbDbEaNcFbGb
IbKbLaYcMbNaNcObQbRbSaScTaTcUbVbYiTRIANGULAR MARKuING FACE"

/-- The names that start with M. -/
def namesM : String := "aMACRONeGEbIC WANDhNETeHAJANI ABBREVIATION SIGNrLETTER AbBAbHAdCAbHAdDAbDAbHAdHAdEbGAbHAdHAcIbJAbHAdKAbHAdLA
cMAcNAbNAcYAdObPAbHAdRAbRAdSAcTAbHAcTAbHAeUbVAiIGATURE SHRInSECTION MARKlIGN NUKTAqJONG TILE AUTUMNgBACKcMBO
OgCHRYSANTHEMUMnEAST WINDiIGHT OF BAMBOOShCHARACTERSjIRCLESqFIVE OF BAMBOOShCHARACTERSjIRCLESoOUR OF BAMBOOS
hCHARACTERSjIRCLESpGREEN DRAGONmJOKERfNINE OF BAMBOOShCHARACTERSjIRCLESoORTH WINDkONE OF BAMBOOShCHARACTERSj
IRCLESnRCHIDgPLUMeRED DRAGONkSEVEN OF BAMBOOShCHARACTERSjIRCLESpIX OF BAMBOOShCHARACTERSjIRCLESnOUTH WINDjPR
INGfUMMERgTHREE OF BAMBOOShCHARACTERSjIRCLESpWO OF BAMBOOShCHARACTERSjIRCLESoWEST WINDiHITE DRAGONlINTERrKAS
AR ANGKAfEND OF SECTIONoLETTER AbBAcCAcDAcGAcJAcKAcLAcMAcNAbGAcYAdPAcRAcSAcTAcVAcYAjPASSIMBANGkVOWEL SIGN Eb
IbObUsLAYALAM AU LENGTH MARKoDATE MARKiIGIT EIGHTfFIVEdOUReNINEeONEdSEVENeIXdTHREEeWOdZEROkFRACTION ONE EIGH
THgFIFTHeORTIETHiHALFeONE-HUNDRED-AND-SIXTIETHyQUARTERhSIXTEENTHjTENTHeWENTIETHnTHREE EIGHTIETHSkQUARTERSiSI
XTEENTHSkTWENTIETHSzLETTER AaAbIbRCHAIC IIjUcBAbHAdCAbHAbILLU KbLaLaLdMbNaNcRRcYiDAbDAbHAdHAcOT REPHiEaEcGAb
HAdHAcIaIcJAbHAdKAbHAdLAbLAbLAeMAcNAbGAcNAbNAdYAdOaOcPAbHAdRAbRAdSAbHAcSAdTAbHAcTAbHAcTAeUaUcVAbEDIC ANUSVAR
AnOCALIC LaLcRaRkYAjNUMBER ONE HUNDREDhTHOUSANDmTENkSIGN ANUSVARAhVAGRAHAiCANDRABINDUkIRCULAR VIRAMAoOMBININ
G ANUSVARA ABOVEyPARAeVERTICAL BAR VIRAMAsIRAMAeSARGAmVOWEL SIGN AAbIbUcEaEcIaIcOaOcUaUcVOCALIC LaLcRaRzdE A
ND FEMALE SIGNpSIGNeWITH STROKE AND MALE AND FEMALE SIGNySIGNsTESE CROSSlMMOTHfNa AND WOMAN HOLDING HANDSxDA
NCINGhIN BUSINESS SUIT LEVITATINGyTUXEDOjWITH GUA PI MAOkTURBANmAT SIGNhDAIC AFFRICATION MARKqGEMINATION MAR
KpLETTER ABbDbGbHbINcKaSAdLbMbNbPbQbRbSaHbZcTaTcZcDUSHENNAiHALQAfINbTcKADdUSHENNAoPUNCTUATIONlVOCALIZATION M
ARKwGOcICHAEAN ABBREVIATION MARK ABOVEfBELOWxLETTER AAYINeLEPHeYINeBETHdHETHfDALETHfHAMEDHhFEcGHIMELfIMELfHE
aTHeJAYINeHAYINgKAPHdHAPHfLAMEDHgMEMdNUNdPEcQHOPHeOPHeRESHeSADHEdMEKHfHINdSHINfTAWcETHdHAMEDHhWAWdXAPHdOPHeY
ODHeZAYINeHAYINnNUMBER FIVEeONEa HUNDREDlTENcWENTYnPUNCTUATION DOTa WITHIN DOTmUBLE DOT WITHIN DOTvFLEURONhL
INE FILLERlSTAReTWO DOTSuSIGN UDpS SHOEgTELPIECE CLOCKoUAL WHEELCHAIRpP SYMBOL FOR LIGHTHOUSEwLE LEAFiRCHE
N HEAD MARKjLETTER -AcAbBAcCAbHAdDAbZAdGAcHAcJAcKAbHAdLAcMAcNAbGAcYAdPAbHAdRAcSAbHAdTAbHAcSAbHAeWAcYAcZAbHAk
MARK SHADjSIGN ANUSVARAiCANDRABINDUpUBJOINED LETTER AbBAcCAbHAdDAbZAdGAcHAcJAcKAbHAdLAcMAcNAbGAcYAdPAbHAdRAc
SAbHAdTAbHAcSAbHAeWAcYAcZAbHAuVOWEL SIGN AAcEbIbObUrRIAGE SYMBOLmTIAL ARTS UNIFORMsSARAM GONDI DIGIT EIGHTfF
IVEdOUReNINEeONEdSEVENeIXdTHREEeWOdZEROkLETTER AaAbIbUcBAbHAdCAbHAdDAbDAbHAdHAdEbGAbHAdHAcIaIcJAbHAcNYAeKAbH
AcSSAeLAbLAdMAcNAbGAcNAcYAdObPAbHAdRAcSAbHAcSAdTAbHAcRAcTAbHAeUaUcVAcYAjRA-KARAgEPHAfSIGN ANUSVARAiCANDRAgHA
LANTAhNUKTAfVISARGAmVIRAMAfOWEL SIGN AAbIbUcEbIaIcObUaUcVOCALIC RzgCULINE ORDINAL INDICATORyK WORK SYMBOLn
U MARKhTE DRINKhHEMATICAL BOLD CAPITAL AaLPHAfBaETAeCaHIdDaELTAeIGAMMAhEaPSILONgTAdFbGaAMMAfHbIaOTAeJbKaAPPA
fLaAMDAfMaUcNaUcOaMEGAdICRONhPaHIcIbSIdQbRaHOdSaIGMAfTaAUcHETAa SYMBOLmUaPSILONhVbWbXaIcYbZaETAmDIGIT EIGHTf
FIVEdOUReNINEeONEdSEVENeIXdTHREEeWOdZEROkEPSILON SYMBOLoFRAKTUR CAPITAL AbBbCbDbEbFbGbHbIbJbKbLbMbNbObPbQbRb
SbTbUbVbWbXbYbZjSMALL AbBbCbDbEbFbGbHbIbJbKbLbMbNbObPbQbRbSbTbUbVbWbXbYbZpITALIC CAPITAL AaLPHAfBaETAeCaHIdD
aELTAfEaPSILONgTAdFbGaAMMAfHbIaOTAeJbKaAPPAfLaAMDAfMaUcNaUcOaMEGAdICRONhPaHIcIbSIdQbRaHOdSaIGMAfTaAUcHETAa S
YMBOLmUaPSILONhVbWbXaIcYbZaETAmEPSILON SYMBOLoKAPPA SYMBOLmNABLAfPARTIAL DIFFERENTIALtHI SYMBOLjI SYMBOLjRH
O SYMBOLkSMALL AaLPHAfBaETAeCaHIdDaELTAfEaPSILONgTAdFaINAL SIGMAlGaAMMAfHbIaOTAeJbKaAPPAfLaAMDAfMaUcNaUcOaME
GAdICRONhPaHIcIbSIdQbRaHOdSaIGMAfTaAUcHETAfUaPSILONhVbWbXaIcYbZaETAkTHETA SYMBOLtKAPPA SYMBOLmNABLAfPARTIA
L DIFFERENTIALtHI SYMBOLjI SYMBOLjRHO SYMBOLkSCRIPT CAPITAL AbBbCbDbEbFbGbHbIbJbKbLbMbNbObPbQbRbSbTbUbVbWbXb
YbZjSMALL AbBbCbDbEbFbGbHbIbJbKbLbMbNbObPbQbRbSbTbUbVbWbXbYbZnMALL AaLPHAfBaETAeCaHIdDaELTAeIGAMMAhEaPSILONg
TAdFaINAL SIGMAlGaAMMAfHbIaOTAeJbKaAPPAfLaAMDAfMaUcNaUcOaMEGAdICRONhPaHIcIbSIdQbRaHOdSaIGMAfTaAUcHETAfUaPSIL
ONhVbWbXaIcYbZaETAkTHETA SYMBOLrDOUBLE-STRUCK CAPITAL AbBbDbEbFbGbIbJbKbLbMbObSbTbUbVbWbXbYjDIGIT EIGHTfFIVE
dOUReNINEeONEdSEVENeIXdTHREEeWOdZEROkSMALL AbBbCbDbEbFbGbHbIbJbKbLbMbNbObPbQbRbSbTbUbVbWbXbYbZvFALLING DIAGO
NALpRAKTUR CAPITAL AbBbDbEbFbGbJbKbLbMbNbObPbQbSbTbUbVbWbXbYjSMALL AbBbCbDbEbFbGbHbIbJbKbLbMbNbObPbQbRbSbTbU
bVbWbXbYbZpITALIC CAPITAL AaLPHAfBaETAeCaHIdDaELTAfEaPSILONgTAdFbGaAMMAfHbIaOTAeJbKaAPPAfLaAMDAfMaUcNaUcOaME
GAdICRONhPaHIcIbSIdQbRaHOdSaIGMAfTaAUcHETAa SYMBOLmUaPSILONhVbWbXaIcYbZaETAmEPSILON SYMBOLoKAPPA SYMBOLmNABL
AfPARTIAL DIFFERENTIALtHI SYMBOLjI SYMBOLjRHO SYMBOLkSMALL AaLPHAfBaETAeCaHIdDaELTAeOTLESS IbJjEaPSILONgTAdF
aINAL SIGMAlGaAMMAfIaOTAeJbKaAPPAfLaAMDAfMaUcNaUcOaMEGAdICRONhPaHIcIbSIdQbRaHOdSaIGMAfTaAUcHETAfUaPSILONhVbW
bXaIcYbZaETAkTHETA SYMBOLtLEFT ANGLE BRACKETnDOUBLE ANGLE BRACKETuFLATTENED PARENTHESISvWHITE SQUARE BRACKET
oTORTOISE SHELL BRACKETziMONOSPACE CAPITAL AbBbCbDbEbFbGbHbIbJbKbLbMbNbObPbQbRbSbTbUbVbWbXbYbZjDIGIT EIGHTfF
IVEdOUReNINEeONEdSEVENeIXdTHREEeWOdZEROkSMALL AbBbCbDbEbFbGbHbIbJbKbLbMbNbObPbQbRbSbTbUbVbWbXbYbZrRIGHT ANGL
E BRACKETnDOUBLE ANGLE BRACKETuFLATTENED PARENTHESISvWHITE SQUARE BRACKEToTORTOISE SHELL BRACKETzhSING DIAGO
NALpSANS-SERIF BOLD CAPITAL AaLPHAfBaETAeCaHIdDaELTAfEaPSILONgTAdFbGaAMMAfHbIaOTAeJbKaAPPAfLaAMDAfMaUcNaUcOa
MEGAdICRONhPaHIcIbSIdQbRaHOdSaIGMAfTaAUcHETAa SYMBOLmUaPSILONhVbWbXaIcYbZaETAmDIGIT EIGHTfFIVEdOUReNINEeONEd
SEVENeIXdTHREEeWOdZEROkEPSILON SYMBOLoITALIC CAPITAL AaLPHAfBaETAeCaHIdDaELTAfEaPSILONgTAdFbGaAMMAfHbIaOTAeJ
bKaAPPAfLaAMDAfMaUcNaUcOaMEGAdICRONhPaHIcIbSIdQbRaHOdSaIGMAfTaAUcHETAa SYMBOLmUaPSILONhVbWbXaIcYbZaETAmEPSIL
ON SYMBOLoKAPPA SYMBOLmNABLAfPARTIAL DIFFERENTIALtHI SYMBOLjI SYMBOLjRHO SYMBOLkSMALL AaLPHAfBaETAeCaHIdDaEL
TAfEaPSILONgTAdFaINAL SIGMAlGaAMMAfHbIaOTAeJbKaAPPAfLaAMDAfMaUcNaUcOaMEGAdICRONhPaHIcIbSIdQbRaHOdSaIGMAfTaAU
cHETAfUaPSILONhVbWbXaIcYbZaETAkTHETA SYMBOLtKAPPA SYMBOLmNABLAfPARTIAL DIFFERENTIALtHI SYMBOLjI SYMBOLjRHO S
YMBOLkSMALL AaLPHAfBaETAeCaHIdDaELTAfEaPSILONgTAdFaINAL SIGMAlGaAMMAfHbIaOTAeJbKaAPPAfLaAMDAfMaUcNaUcOaMEGAd
ICRONhPaHIcIbSIdQbRaHOdSaIGMAfTaAUcHETAfUaPSILONhVbWbXaIcYbZaETAkTHETA SYMBOLrCAPITAL AbBbCbDbEbFbGbHbIbJbKb
LbMbNbObPbQbRbSbTbUbVbWbXbYbZjDIGIT EIGHTfFIVEdOUReNINEeONEdSEVENeIXdTHREEeWOdZEROkITALIC CAPITAL AbBbCbDbEb
FbGbHbIbJbKbLbMbNbObPbQbRbSbTbUbVbWbXbYbZjSMALL AbBbCbDbEbFbGbHbIbJbKbLbMbNbObPbQbRbSbTbUbVbWbXbYbZoSMALL Ab
BbCbDbEbFbGbHbIbJbKbLbMbNbObPbQbRbSbTbUbVbWbXbYbZrCRIPT CAPITAL AbCbDbGbJbKbNbObPbQbSbTbUbVbWbXbYbZjSMALL Ab
BbCbDbFbHbIbJbKbLbMbNbPbQbRbSbTbUbVbWbXbYbZzXIMIZEgYAN NUMERAL EIGHTaEENhLEVENgFIFTEENfVEdOURaTEENiNINEaTEEN
iONEdSEVENaTEENiIXaTEENhTENcHIRTEENgREEeWELVEeOdZEROrEASURED ANGLEa OPENING LEFTmWITH OPEN ARM ENDING IN ARR
OW POINTING DOWN AND LEFTeRIGHToLEFT AND DOWNeUPlRIGHT AND DOWNeUPmUP AND LEFTeRIGHTzzhBYcRIGHT ANGLE WITH D
OTzbT ON BONEkCHANICAL ARMdLEGmDEFAIDRIN CAPITAL LETTER AaIbTIUeBbCbDbEbFbGbHaPcIbJbKaPcLbMbNaGbYcOaEcPbQbRb
SbTbUbVbWbXbYaUcZpOMMAfDIGIT EIGHTfFIVEdOUReNINEeONEa ALTERNATE FORMsSEVENeIXdTHREEa ALTERNATE FORMtWOa ALTE
RNATE FORMsZEROkEXCLAMATION OHoFULL STOPjNUMBER EIGHTEENhLEVENgFIFTEENgOURTEENiNINETEENiSEVENTEENiIXTEENhTEN
cHIRTEENhWELVEnSMALL LETTER AaIbTIUeBbCbDbEbFbGbHaPcIbJbKaPcLbMbNaGbYcOaEcPbQbRbSbTbUbVbWbXbYaUcZnYMBOL AIVA
uIEVAL COMMAfEXCLAMATION MARKqQUESTION MARKsUM BLACK CIRCLElOLD WHITE CIRCLErEIGHT POINTED BLACK STARsSPOKE
D ASTERISKvFIVE SPOKED ASTERISKtLATTENED LEFT PARENTHESIS ORNAMENTzRIGHT PARENTHESIS ORNAMENTzkOUR POINTED B
LACK STARkPINWHEEL STARzbGREEK CROSSlLEFT CURLY BRACKET ORNAMENTwPARENTHESIS ORNAMENTv-POINTING ANGLE BRACKE
T ORNAMENTzlMATHEMATICAL SPACEsRIGHT CURLY BRACKET ORNAMENTwPARENTHESIS ORNAMENTv-POINTING ANGLE BRACKET ORN
AMENTzmSALTIREgHADEeIX POINTED BLACK STARsSPOKED ASTERISKsMALL WHITE CIRCLEsTHREE POINTED BLACK STARkPINWHEE
L STARzcVERTICAL BARmWHITE CIRCLEgSQUARErETEI MAYEK AHANG KHUDAMlNJIdPUN IYEKjCHEIKHANcEIiDIGIT EIGHTfFIVEdO
UReNINEeONEdSEVENeIXdTHREEeWOdZEROkLETTER ATIYAfBAbHAMeCHAbILeDDAbHAdHOUdILdEbGHOUdOKdHUKdIa LONSUMiJHAMdILd
KHOUdOKa LONSUMkLAIa LONSUMkMITa LONSUMkNAa LONSUMiGOUa LONSUMkNAcYAdObPAa LONSUMiHAMeRAIdSAMcHAcSAdTHOUdIL
a LONSUMjTAbHAeUNcWAIdYANGkUM IYEKiSYLLABLE REPETITION MARKyVIRAMAfOWEL SIGN AAIbUcNAPdUcCHEINAPhIIbNAPeNUNG
eONAPeSOUNAPgUNAPdUcVISARGAhYENAPqWORD REPETITION MARKzgLONcTING FACEkMOcNDE KIKAKUI COMBINING NUMBER HUNDRE
D THOUSANDSkSiMILLIONSiTEENSdN THOUSANDSkSdHOUSANDSzbDIGIT EIGHTfFIVEdOUReNINEeONEdSEVENeIXdTHREEeWOjSYLLABL
E M001 KIe2 KAe3 KUe4 WIe5 WAe6 WUe7 MINf8 MANf9 MUNg10 BIe1 BAe2 BUe3 Id4 Ad5 Ud6 DIe7 DAe8 DUe9 SIf20 SAe
1 SUe2 TIe3 TAe4 TUe5 LIe6 LAe7 LUe8 JIe9 JAf30 JUe1 YIe2 YAe3 YUe4 FIe5 FAe6 FUe7 NINf8 NANf9 NUNg40 HEEf
1 HAe2 HOOf3 NGGAg4 KPEEg5 WOe6 HUANg7 MBEEg8 KOe9 WVAg50 PUe1 PEe2 HENf3 HINf4 LOOf5 TEe6 GBAf7 NGONg8 NYAN
g9 MENg60 NYONg1 WVIf2 MBAf3 JOe4 NDOf5 KEEf6 POe7 NDOOg8 PIe9 TOf70 GBOf1 GBOOg2 MBEf3 LEe4 KPUf5 FEe6 KOOf
7 VOe8 FEEf9 SOf80 YEe1 PEEf2 NGGUg3 HEEIg4 LEEf5 VEe6 LONG NGGEl7 HUNf8 FOe9 DEEg90 NGGIg1 TEEf2 KPAf3 GBEE
g4 MONf5 KEe6 HEe7 BEe8 NYENg9 PAg100 Ed1 FANf2 POOf3 BOOf4 TOOf5 LONG MBOOl6 LONG NGGOOm7 GBEf8 KPEf9 YEEg1
0 LONG LEj1 GAe2 KPOOg3 JEe4 WOOf5 NGGEEh6 SEe7 NENf8 WEe9 NDEg20 NGGOg1 YOe2 MBUf3 NDIf4 GBIf5 NDUf6 WEEf
7 NGGUAh8 HOOUg9 NDAg30 HANf1 INe2 KPIf3 FOOf4 NJOOg5 INe6 SOOf7 EIe8 BOe9 WVEg40 HOe1 YOOf2 LONG MBOk3 WEIf
4 VOOf5 MBIf6 NGGEg7 Od8 GBUf9 NJEEh50 BEEf1 VUe2 NJAf3 LOe4 MUANg5 GIe6 NGGOOh7 JEEf8 KPOf9 NGGAAi60 JOOf
1 LONG MBEk2 SEEf3 EEe4 NYINg5 OOe6 GUEIg7 GUANg8 GUe9 NONg70 NYUNg1 RAe2 MBOOg3 VEEf4 MBOf5 LONG JOj6 HIe
7 NGUANh8 ENe9 KUAg80 DOOf1 DOe2 VIe3 LONG NGGOl4 NGENg5 VAe6 HUe7 MBUUg8 MBEEg9 MUENh90 GEEf1 NDEEg2 NJUf
3 HONf4 WUIf5 ANe6 SIAf7 FUAzdORAH WITH NINE BRANCHESxS SYMBOLjRCURYeOITIC CURSIVE FRACTION EIGHT TWELFTHSnL
EVEN TWELFTHSpFIVE TWELFTHSmOUR TWELFTHSnNINE TWELFTHSnONE HALFeTWELFTHlSEVEN TWELFTHSnIX TWELFTHSmTEN TWELF
THSlHREE TWELFTHSnWO TWELFTHSvLETTER AaRCHAIC SAkBAcDAcEbHHAdIbKAbHAdLAcMAcNAbEcObPAcQAcRAcSAbEcTAbEbOcWAcYA
iOGOGRAM IMNdRMTmNUMBER EIGHTa HUNDREDa THOUSANDqTHOUSANDjY THOUSANDpFIFTYa THOUSANDmVEa HUNDREDa THOUSANDqT
HOUSANDmORTYa THOUSANDmURa HUNDREDa THOUSANDqTHOUSANDnNINEa HUNDREDa THOUSANDqTHOUSANDjTY THOUSANDpONEa HUND
REDa THOUSANDqTHOUSANDmSEVENa HUNDREDa THOUSANDqTHOUSANDjTYa THOUSANDpIXa HUNDREDa THOUSANDqTHOUSANDjTYa THO
USANDoTENa THOUSANDlHIRTYa THOUSANDnREEa HUNDREDa THOUSANDqTHOUSANDnWENTYa THOUSANDnOa HUNDREDa THOUSANDqTHO
USANDzcHIEROGLYPHIC LETTER AbBAa-2eDAcEbHHAdIbKAbHAdLAcMAcNAa-2dEa-2eObPAcQAcRAa-2eSAa-2dEcTAa-2dEa-2dOcWAcY
AjSYMBOL VIDJa-2zhPERSONhSSAGE WAITINGnTRICAL BREVEfLONG OVER SHORTfTWO SHORTSuPENTASEMEjSHORT OVER LONGpTET
RASEMEiRISEMEgWO SHORTS JOINEDgOVER LONGzOeIAO LETTER AHbRCHAIC MAcNAbGAdZZAlBAbRIdDAbDAcLHAbYAeZAbHAcYIcZAe
FAcGAbHAbHAeHAbHAdKAcLAbHAbYAdYAdMAbHAdNAaSALIZATIONlGAbHAdHAcNAbHAdYAbHAePAbLAdQAbGAdREFORMED TONE-1b2b4b5b
6b8fSHAmTEdSAbHAcSAcYIdTAbEbLHAbYAeONE-2b3b4b5b6b7b8fSAbEbHAcSAdTAdVAbFAdWAcXAcYI DZHAeKAcNNAdPAcTAbSAbHAdTA
gZAbHAcSAbHAdZAbSAbYAdYAlSIGN ASPIRATIONkCONSONANT MODIFIER BARwREFORMED ASPIRATIONkVOICINGvTONE ABOVEfBELOW
fRIGHTfTOP RIGHToVOWEL SIGN AaAbEaEcHHcIbNaGcUcEaAbIbNaGcRaRdIaAaNaGdEbGbIbNGcOaNGdUcNaGcOaERbYcGbObUcROUNDE
D ERaRlUaAaNaGdEIcIbNGcOGcUcVWcWaOcYaIbUIrCR DASH SYMBOLlON US SYMBOLnO SIGNfBEcPHONEfSCOPEiDDLE DOTdTHIRD W
HITE RIGHT POINTING INDEXzlLINE HORIZONTAL ELLIPSISzLITARY HELMETgMEDALlKY WAYgL SIGNhNIBUSdDISCeMIZEfUS SIG
Na IN TRIANGLElWITH COMMA ABOVElDOT BELOWjFALLING DOTSmRISING DOTSvTILDEg-OR-PLUS SIGNpYcRRORa BALLkMSPdOBIL
E PHONEa OFFdWITH RIGHTWARDS ARROW AT LEFTzpDELScRN PENTATHLONoI ABBREVIATION SIGNrDANDAeIGIT EIGHTfFIVEdOUR
eNINEeONEdSEVENeIXdTHREEeWOdZEROjOUBLE DANDAmLETTER AaAbIbUcBAbHAdCAbHAdDAbDAbHAdHAdEbGAbHAdHAcIaIcJAbHAdKAb
HAdLAbLAdMAcNAbGAcNAcYAdObPAbHAdRAcSAbHAcSAdTAbHAcTAbHAeUaUcVAbOCALIC LaLcRaRkYAjSIGN ANUSVARAhRDHACANDRAlHU
VAeVIRAMAeSARGAmVOWEL SIGN AAbIbUcEbIaIcObUaUcVOCALIC LaLcRaRwFIER BREVE WITH INVERTED BREVEzLETTER ACUTE AC
CENTlLVEOLAR CLICKnPOSTROPHEkBEGIN HIGH TONEjLOW TONEnILABIAL CLICKoCAPITAL AaEcBaARRED BiCbDbEbFbGbHa WIT
H STROKEnIbJbKbLbMbNbOaUcPbQbRaEVERSED EbNkTbUbVbWiENTRED LEFT HALF RINGoRIGHT HALF RINGwHINESE TONE YANG PI
NGeQUcRUcSHANGjIN PINGeQUcRUcSHANGvIRCUMFLEX ACCENTqOLONeROSS ACCENTlYRILLIC ENcHARD SIGNjSOFT SIGNsDENTAL C
LICKlOT HORIZONTAL BARoSLASHfVERTICAL BARoUBLE APOSTROPHEkPRIMEkWN ARROWHEADjTACKjEND HIGH TONEjLOW TONElXTR
A-HIGH DOTTED LEFT-STEM TONE BARsTONE BARpLEFT-STEM TONE BARsTONE BARnLOW DOTTED LEFT-STEM TONE BARsTONE BAR
pLEFT-STEM TONE BARsTONE BARsGEORGIAN NARlLOTTAL STOPa WITH STROKExRAVE ACCENTmHALF TRIANGULAR COLONuIGH DOT
TED LEFT-STEM TONE BARsTONE BARpLEFT-STEM TONE BARsTONE BARnLATERAL CLICKmEFT ARROWHEADjHALF RINGjTACKiOW AC
UTE ACCENTmCIRCUMFLEX ACCENTrDOTTED LEFT-STEM TONE BARsTONE BARnWN ARROWHEADoGRAVE ACCENTmINVERTED EXCLAMATI
ON MARKzLEFT ARROWaHEADk-STEM TONE BARsMACRONgRIGHT ARROWHEADnNGeTILDEeONE BARiUP ARROWHEADmVERTICAL LINEoE
R RIGHT CORNER ANGLEyMACRONfID DOTTED LEFT-STEM TONE BARsTONE BARpLEFT-STEM TONE BARsTONE BARjDLE DOUBLE ACU
TE ACCENTmGRAVE ACCENTtGRAVE ACCENTrNUS SIGNkOPEN SHELFkPLUS SIGNiRIMEfRAISED COLONfDOWN ARROWkEXCLAMATION M
ARKqINVERTED EXCLAMATION MARKzUP ARROWoETROFLEX CLICK WITH RETROFLEX HOOKziVERSED COMMAfGLOTTAL STOPa WITH S
TROKEzhHOTIC HOOKkIGHT ARROWHEADjHALF RINGjTACKkSHELFdORT EQUALS SIGNqMALL AaEbINcLPHAfBa WITH HOOKkARRED Oh
ETAdOTTOM HALF OnCa WITH CURLkAPITAL AAcBbGa WITH HOOKlHbIa WITH STROKEmNVERTED RkLa WITH BELTlNbOEcRbUbYiHI
cLOSED OMEGAfREVERSED OPEN EwDa WITH HOOKa AND TAILnTAILkELTAdZH DIGRAPHlOTLESS J WITH STROKEa AND HOOKzeZ D
IGRAPHa WITH CURLeRETROFLEX HOOKzfEaNGcSHcTHcZHdFaENG DIGRAPHmGa WITH HOOKkAMMAeREEK GAMMAfPHIjHa WITH HOOKe
STROKEmENGa WITH HOOKoI WITH STROKEmOTAeJa WITH CROSSED-TAILtKbLa WITH BELTeINVERTED LAZY SpMIDDLE TILDEmPAL
ATAL HOOKmRETROFLEX HOOKa AND BELTzeEZHa WITH RETROFLEX HOOKxIGATURE OEkS DIGRAPHjZ DIGRAPHkMa WITH HOOKlN W
ITH LEFT HOOKjRETROFLEX HOOKvOa WITH STROKEmPEN EbOgPaHIdQbRa WITH FISHHOOKiTAILkAMS HORNiEVERSED EbGLOTTA
L STOPmOPEN EpSa WITH CURLeHOOKkCHWAdRIPT GhIDEWAYS UkTa WITH PALATAL HOOKmRETROFLEX HOOKuC DIGRAPH WITH CUR
LtESH DIGRAPHlHETAeOP HALF OjS DIGRAPHa WITH RETROFLEX HOOKzeURNED AaEbLPHAfHbIbMa WITH LONG LEGpOPEN EgRa W
ITH HOOKeLONG LEGa AND RETROFLEX HOOKzjVbWbYa WITH BELTsUa BARdWITH LEFT HOOKpPSILONhVa WITH HOOKeRIGHT HOOK
rWbXbYbZa WITH CURLeRETROFLEX HOOKzbTRESS AND HIGH TONEjLOW TONEsUPERSCRIPT HALF TRIANGULAR COLONvTRIANGULA
R COLONzdTRIANGULAR COLONpURNED COMMAmUNASPIRATEDkP ARROWHEADjTACKgScVERTICAL LINEmOICINGhYANG DEPARTING TON
E MARKxIN DEPARTING TONE MARKzlULO TWO SUMmNEY BAGdWITH WINGSl-MOUTH FACEnGOLIAN BIRGAa WITH DOUBLE ORNAMENT
pORNAMENTtCOLONdMMAfDIGIT EIGHTfFIVEdOUReNINEeONEdSEVENeIXdTHREEeWOdZEROjOUBLE BIRGA WITH ORNAMENTzbELLIPSIS
iFOUR DOTSiREE VARIATION SELECTOR FOUReONEdTHREEeWOzbULL STOPjINVERTED BIRGAa WITH DOUBLE ORNAMENTzkLETTER A
aLI GALI AaHbNUSVARA ONEmBALUDAgCAcDAaGALGAfMARUfDAdHALF UbYAhIaNVERTED UBADAMAqKAcNGAcNAdPAbHAdSSAdTAbHRE
E BALUDAlTAbHAeUBADAMAhVISARGA ONElZAbHAlNGdBAcCHAa WITH TWO DOTSpIdDAcEaEcFAcGAcHAAdIbJAcKAbHAdLAbHAdMAaNCH
U ALI GALI BHAdCAbYAdDDHAdHAdGHAdJHAdLHAdNGAdSSAdTAbTAdZAbHAmFAcIbKAcRAcZHAkNAcOaEcPAcQAcRAcSAbHAcIBE ANGdCH
AdDAcEbFAcGAaAdHAaAdIaYcJAcKAcPAcRAAdSHAdTAbSAdUaEcZAbHAiTAbODO ALI GALI TAcZHAlNGdBAcCHAdDAbZAdEbGAaAdHAAdI
bJAbIAdKAcLONG VOWEL SIGNpMAcNIAdOaEcPAcQAcTAbSAdUaEcWAcYAgSAdUaEcWAcYAcZAbHIcRAkMANCHU COMMAfFULL STOPqNIRU
GUgROTATED BIRGAa WITH DOUBLE ORNAMENTpORNAMENTzcSIBE SYLLABLE BOUNDARY MARKERzdWIRL BIRGAa WITH DOUBLE ORNA
MENTpORNAMENTzTODO SOFT HYPHENpRIPLE BIRGA WITH ORNAMENTzURNED SWIRL BIRGA WITH DOUBLE ORNAMENTzoVOWEL SEPAR
ATORwKEYa FACEiOGRAM FOR EARTHfYANGdINmRAILeSTABLE SYMBOLpOD BUBBLEiN CAKEeVIEWING CEREMONYtSQUEbITOgTHER CH
RISTMASnOR BOATeSCOOTERiIZED WHEELCHAIRpWAYgUNT FUJIfAINa BICYCLISTjCABLEWAYiRAILWAYnSEa FACEeTRAPhTHdVIE CA
MERAkYAIeRO DANDAeIGIT EIGHTfFIVEdOUReNINEeONEdSEVENeIXdTHREEeWOdZEROjOUBLE DANDAmLETTER AbBAcCHUdDAaIdEaAcH
AIbOdKEAAEeHAIdOcLAaNdMAEMdIMdNGIcINdOaLbOcPAbHIdRIbOcSHIdTAbEKcHEAeWAcYOmUCH GREATER-THANmLESS-THANmLTANI L
ETTER AbBAbHAdCAbHAdDAbDAbDAcHAdHAdEbGAbHAdHAcIbJAbJAdKAbHAdLAcMAcNAbNAcYAdPAbHAdRAbHAcRAdSAcTAbHAcTAbHAeUbV
AcYAjSECTION MARKqIMAPdPLE MUSICAL NOTESpICATION SIGNa IN DOUBLE CIRCLEnLEFT HALF CIRCLEqRIGHT HALF CIRCLErT
RIANGLElWITH DOT ABOVEjUNDERBARsXlSETa MULTIPLICATIONoUNIONmSHROOMfIC FLAT SIGNjNATURAL SIGNmSHARP SIGNlAL K
EYBOARDa WITH JACKStNOTEeSCOREeYMBOL ARPEGGIATO DOWNeUPnBEGIN BEAMePHRASEgSLUReTIEiRACEbKETfEATH MARKiVEbIS
a RESTlC CLEFfAESURAgIRCLE X NOTEHEADqLIMACUSfVISeUSTER NOTEHEAD BLACKfWHITEvODAcMBINING ACCENTa-STACCATOoUG
MENTATION DOTqBENDeDOITcUBLE TONGUElWN BOWiFLAG-1b2b3b4b5eIPeHARMONICiLOUREfMARCATOa-STACCATOqRIPdSMEAReNA
P PIZZICATOnPRECHGESANG STEMqTACCATISSIMOgOgEMeTENUTOfREMOLO-1b2b3hIPLE TONGUEnUP BOWnMON TIMEkRESCENDOhOIXe
UT TIMEiDA CAPOfL SEGNOhMPa ALLgSHED BARLINEnECRESCENDOjGREE SLASHlOUBLE BARLINEhFLATeSHARPlRUM CLEF-1b2lEIG
HTH NOTEeRESTkND BEAMeOF STIMMEjPHRASEgSLUReTIEhF CLEFa OTTAVA ALTAeBASSAsERMATAa BELOWmINAL BARLINEkGERED T
REMOLO-1b2b3qVE-LINE STAFFoLAT DOWNeUPgORTEdUR-LINE STAFFkSTRING FRETBOARDuUSA BLACKfWHITEkG CLEFa OTTAVA AL
TAeBASSAsLISSANDO DOWNeUPlRACE NOTE NO SLASHiSLASHoEGORIAN C CLEFgF CLEFqHALF NOTEePEDAL MARKkRESThUPTSTIMME
lINVERTED TURNnKIEVAN C CLEFgEIGHTH NOTE STEM DOWNeUPsND OF PIECEmFINAL NOTEjLAT SIGNjHALF NOTEjQUARTER NOT
E STEM DOWNeUPuRECITATIVE MARKpWHOLE NOTEqORONfLEFT REPEAT SIGNpONGAa IMPERFECTA RESTpPERFECTA RESTtMAXIMAfE
ZZOeINIMAa BLACKfRESTkOON NOTEHEAD BLACKfWHITEsULTI RESTfPLE MEASURE RESTvNATURAL DOWNeUPjEBENSTIMMEkOTEHEA
D BLACKnULL NOTEHEADnONE HUNDRED TWENTY-EIGHTH NOTEeRESTzc-LINE STAFFnRNAMENT STROKE-1a0b1c2b3b4b5b6b7b8b9qT
TAVA ALTAeBASSAmPARENTHESIS NOTEHEADtEDAL MARKeUP MARKlS SUBPUNCTISnIANOeLUS NOTEHEADmODATUSfRRECTUSa FLEXUS
qQUARTER NOTEeRESTeTONE FLATeSHARPqINDICESIMA ALTAeBASSAsREPEAT DOTSfED FIGURE-1b2b3pVERSE FINAL BARLINEuIGH
T REPEAT SIGNpNFORZANDOlSCANDICUSa FLEXUSpEGNOdMIBREVIS BLACKfRESTeWHITEmMINIMA BLACKfRESTeWHITEpHARP DOWNeU
PgORT BARLINEmINGLE BARLINEmX-LINE STAFFkSTRING FRETBOARDrTEENTH NOTEeRESTkY-FOURTH NOTEeRESTqORIdQUARE BbNO
TEHEAD BLACKfWHITEuUBITOgTEMPUS IMPERFECTUM CUM PROLATIONE IMPERFECTAa DIMINUTION-1b2b3xPERFECTAzkPERFECTU
M CUM PROLATIONE IMPERFECTAkPERFECTAa DIMINUTION-1zzcHIRTY-SECOND NOTEeRESTqREE-LINE STAFFpORCULUSa RESUPINU
SrRaIANGLE NOTEHEAD DOWN BLACKfWHITEkLEFT BLACKfWHITEkRIGHT BLACKfWHITElUP BLACKfRIGHT BLACKfWHITElWHITEs-RO
UND NOTEHEAD DOWN BLACKfWHITEziURNa SLASHfUPgWO-LINE STAFFoVIRGAeOID NOTEHEADnWHOLE NOTEeRESTjITH FINGERNAIL
SqX NOTEHEADkZpVScWbYANMAR CONSONANT SIGN MEDIAL HAcRAcWAcYAiON MEDIAL LAcMAcNAnSHAN MEDIAL WAzeDIGIT EIGHTf
FIVEdOUReNINEeONEdSEVENeIXdTHREEeWOdZEROkLETTER AaITON RAhUcBAbHAdCAbHAdDAbDAbHAdHAdEaASTERN PWO KAREN GHWAe
NNAdYWAvGAbHAcREAT SAiHAcIaIcJAbHAdKAbHAaMTI CAbHAdDDAbHAdHAdFAcGAcHAbHAdJAbHAdLLAdNAbYAdRAcSAcTTAbHAeXAcZAj
LAbLAdMAbON BBAbEdEbJHAdNGAhNAbGAcNAbYAdYAdObPAbHAdRAbUMAI PALAUNG FAqSAbGAW KAREN SHAnHAaN AbBAbHAdCAbHAdDA
cFAcGAbHAdHAcJHAdKAbHAdNAbNAcYAdPHAdTHAdZAfWE PALAUNG CHAdSHApSAdTAaI LAING BAbHAdDAbDAbHAdHAdFAcGAbHAdJAbHA
dLLAdNNAcYAmHAcTAbHAeUaUcVOCALIC LaLcRaRkWAbESTERN PWO KAREN PWAdTHAvYAiOGOGRAM KHAMTI HMcOAYdQNsMODIFIER LE
TTER KHAMTI REDUPLICATIONuSHAN REDUPLICATIONzjSHAN DIGIT EIGHTfFIVEdOUReNINEeONEdSEVENeIXdTHREEeWOdZEROoIG
N ANUSVARAhSATeDOT BELOWjKHAMTI TONE-1b3nLITTLE SECTIONoPAO KAREN TONEoRUMAI PALAUNG TONE-5uSECTIONgHAN COUN
CIL EMPHATIC TONEnTONE-2b3oSAWdTONE-2b3b5b6lTAI LAING TONE-2b5qVIRAMAeSARGAhWESTERN PWO KAREN TONE-1b2b3b4b5
zdYMBOL AFOREMENTIONEDnITON EXCLAMATIONlONEdTWOjCOMPLETEDjGENITIVEiLOCATIVEiSHAN EXCLAMATIONlONEpTAI LAING D
IGIT EIGHTfFIVEdOUReNINEeONEdSEVENeIXdTHREEeWOdZEROtONE MARK SGAW KAREN HATHIfKE PHOzcVOWEL SIGN AAbIaTON Aa
IiEa ABOVEhGEBA KAREN ImIaIcKAYAH EEcOEcUhMON IIcOfSGAW KAREN EUmHAN AAcEa ABOVEhFINAL YmTALL AAhUaUcVOCALI
C LaLcRaRkWESTERN PWO KAREN EUcUE"

/-- The names that start with N. -/
def namesN : String := "aN-ARY CIRCLED DOT OPERATORmPLUS OPERATORnTIMES OPERATORvOPRODUCTjINTERSECTIONmLOGICAL ANDdORkPRODUCThSQUAR
E INTERSECTION OPERATORvUNION OPERATORuUMMATIONjTIMES OPERATORoUNIONa OPERATOR WITH DOTdPLUSyWHITE VERTICA
L BARxABATAEAN CRUCIFORM NUMBER FOURvLETTER ALEPHeYINeBETHeDALETHgFINAL ALEPHfBETHeHEcKAPHeLAMEDHgMEMdNUNdSH
INeYODHkGIMELfHEaTHeKAPHeLAMEDHgMEMdNUNdPEcQOPHeRESHeSADHEdMEKHfHINeTAWcETHeWAWdYODHeZAYINmNUMBER FIVEdOUReO
NEa HUNDREDlTENcHREEeWENTYeOrLAdIL POLISHiRA SIGNiKbME BADGEiNDaINAGARI HEADSTROKEkLETTER AaAbIbUcBAbHAdCAbH
AdDAbDAbHAdHAdEbGAbHAdHAcIaIcJAbHAdKAbHAdLAbLAdMAcNAbGAcNAcYAdObPAbHAdRAbRAdSAbHAcSAdTAbHAcTAbHAeUaUcVAbOCAL
IC RaRkYAjSIGN ANUSVARAhVAGRAHAiSIDDHAMhVIRAMAeSARGAmVOWEL SIGN AAbIbUcEbIaIcObPRISHTHAMATRA EpUaUcVOCALIC R
aRzgRROW NO-BREAK SPACEtTIONAL DIGIT SHAPESmPARKlUSEATED FACEmZAR AMULETlBHbSPdECKTIEfGATED DOUBLE VERTICA
L BAR DOUBLE RIGHT TURNSTILEzuIVE ACKNOWLEDGElCIRCLED DIGIT ZEROkLATIN CAPITAL LETTER AbBbCbDbEbFbGbHbIbJbKb
LbMbNbObPbQbRbSbTbUbVbWbXbYbZwNUMBER EIGHTEENhLEVENgFIFTEENgOURTEENiNINETEENiSEVENTEENiIXTEENhTHIRTEENhWELVE
dNTYnSQUAREgTRIANGLEqDIAGONAL CROSSfDIAMONDhMIDDLE RIGHT TO LOWER CENTREzmSQUARED ABcCROSS MARKkICcLATIN CAP
ITAL LETTER AbBbCbDbEbFbGbHbIbJbKbLbMbNbObPbQbRbSbTbUbVbWbXbYbZwPAcQUESTION MARKnSAcWCrITHER A SUBSET OF NO
R EQUAL TOuPERSET OF NOR EQUAL TOzPPROXIMATELY NOR ACTUALLY EQUAL TOzkGREATER-THAN NOR EQUAL TOfIVALENT TOnL
ESS-THANzbLESS-THAN NOR EQUAL TOfIVALENT TOnGREATER-THANzhLbPTUNEa FORM TWOoRD FACEhSSUSdT WITH EGGSkING DOL
LSlUTERcRAL CHESS BISHOPa ROTATED NINETY DEGREESoTWO HUNDRED SEVENTY DEGREESzrEQUIHOPPERa ROTATED NINETY DEG
REESziKINGa ROTATED NINETY DEGREESoTWO HUNDRED SEVENTY DEGREESzoNIGHTa ROTATED FORTY-FIVE DEGREESsNINETY DEG
REESoONE HUNDRED THIRTY-FIVE DEGREESzgTHREE HUNDRED FIFTEEN DEGREESzdWO HUNDRED SEVENTY DEGREESpTWENTY-FIV
E DEGREESzvPAWNa ROTATED NINETY DEGREESoTWO HUNDRED SEVENTY DEGREESzpQUEENa ROTATED NINETY DEGREESoTWO HUNDR
ED SEVENTY DEGREESzqROOKa ROTATED NINETY DEGREESoTWO HUNDRED SEVENTY DEGREESzpTURNED BISHOPgKINGdNIGHTgPAWNe
QUEENfROOKrFACEkW LINEeMOON SYMBOLgWITH FACEoSHEQEL SIGNlTAI LUE DIGIT EIGHTfFIVEdOUReNINEeONEdSEVENeIXdTHRE
EeWOdZEROkLETTER FINAL BbDbKbMbNaGcVhHIGH BAcDAcFAcHAcKAbVAdLAcMAcNAbGAdPAbHAdQAcSAbUAdTAbHAcSAdVAcXAbVAdYAh
LOW BAcDAcFAcHAcKAbVAdLAcMAcNAbGAdPAbHAdQAcSAbUAdTAbHAcSAdVAcXAbVAdYAnSIGN LAEaVjTHAM DIGIT ONEnONE MARK-1b2
lVOWEL SIGN AAaYcEbYcEbIIbYcOaAaYcYcUaEaYcUbYcVOWEL SHORTENERzkA ABBREVIATION SIGNrCOMMAfDANDAeIGIT EIGHTfFI
VEdOUReNINEeONEdSEVENeIXdTHREEeWOdZEROjOUBLE COMMAfDANDAmGAP FILLERkINSERTION SIGNoLETTER AaAbIbUcBAbHAdCAbH
AdDAbDAbHAdHAdEbGAbHAdHAcIaIcJAbHAdKAbHAdLAbHAdMAbHAdNAbGAbHAdHAcNAcYAbHAeObPAbHAdRAbHAdSAbHAcSAdTAbHAcTAbHA
eUaUcVEDIC ANUSVARAnOCALIC LaLcRaRkWAcYAjOMcPLACEHOLDER MARKqSANDHI MARKkIDDHIeGN ANUSVARAhVAGRAHAiCANDRABIN
DUlFINAL ANUSVARAoJIHVAMULIYAlNUKTAfUPADHMANIYAlVIRAMAeSARGAmVOWEL SIGN AAbIbUcEbIaIcObUaUcVOCALIC LaLcRaRxL
INE LEFTeRIGHTkSPAPERhXT LINEePAGEiIGHT WITH STARSoNJAeKO COMBINING DOUBLE DOT ABOVEqLONG DESCENDING TONEpHI
GH TONEjLOW TONEiRISING TONEqNASALIZATION MARKrSHORT HIGH TONEjLOW TONEiRISING TONEyMAfDANTAYALANjIGIT EIGHT
fFIVEdOUReNINEeONEdSEVENeIXdTHREEeWOdZEROjOROME SIGNlEXCLAMATION MARKqHIGH TONE APOSTROPHEuLAJANYALANjETTE
R AbBAcCHAdDAaGBASINNAkEaEcFAcGBAdHAcIbJAbONA CHAdJAcRAhKAcLAcMAcNaAa WOLOSOiYAa WOLOSOkOaOcPAcRAbRAdSAcTAcU
bWAcYAiOW TONE APOSTROPHEtSYMBOL GBAKURUNENkOO DENNENqTAMAN SIGNnLbNBSPeO BICYCLEShREAK HEREkENTRYa SIGNkMOB
ILE PHONESnONE UNDER EIGHTEEN SYMBOLzPEDESTRIANSkIRACYgSMOKING SYMBOLp-BREAK SPACEmMINAL DIGIT SHAPESqSMA SI
GNkN-BREAKING HYPHENpPOTABLE WATER SYMBOLvFORKINGiRaDIC MARK SIGNnMAL SUBGROUP OFa OR EQUAL TOzcTH EAST AN
D SOUTH WEST ARROWtRROWa AND SOUTH EAST ARROWuCROSSING NORTH WEST ARROWqSOUTH EAST ARROWzWITH HOOKpBLACK ARR
OWlDOUBLE ARROWmPOINTING BUDdLEAFeVINE LEAFsSANS-SERIF ARROWqTRIANGLE-HEADED ARROWa TO BARzdWHITE ARROWqINDI
C FRACTION ONE EIGHTHgHALFeQUARTERhSIXTEENTHnTHREE QUARTERSiSIXTEENTHSzPLACEHOLDER MARKqQUANTITY MARKkRTER M
ARKmRUPEE MARKqWEST AND SOUTH EAST ARROWtRROWa AND NORTH EAST ARROWuCROSSING NORTH EAST ARROWzTO CORNERgLON
G BARlWITH HOOKpBLACK ARROWlDOUBLE ARROWmPOINTING BUDdLEAFeVINE LEAFsSANS-SERIF ARROWqTRIANGLE-HEADED ARROW
a TO BARzdWHITE ARROWrEAST-POINTING AIRPLANEzSEcT A SUBSET OFhPERSET OFmLMOST EQUAL TOoN ELEMENT OFmSYMPTOTI
CALLY EQUAL TOxCHECK MARKkEQUAL TOfIVALENT TOnGREATER-THANmIDENTICAL TOmLESS-THANjNORMAL SUBGROUP OFa OR EQU
AL TOzfPARALLEL TOlSIGNdQUARE IMAGE OF OR EQUAL TOuORIGINAL OF OR EQUAL TOzfTILDEeRUEfCHED LEFT SEMICIRCLE W
ITH THREE DOTSzfOWER RIGHT-SHADOWED WHITE RIGHTWARDS ARROWzsRIGHT SEMICIRCLE WITH THREE DOTSzhUPPER RIGHT-SH
ADOWED WHITE RIGHTWARDS ARROWzxEa PADbGEfBOOKa WITH DECORATIVE COVERzeULaLcMBER EIGHTEEN FULL STOPrLEVEN FUL
L STOPqFIFTEEN FULL STOPqOURTEEN FULL STOPsNINETEEN FULL STOPsSEVENTEEN FULL STOPsIGNcXTEEN FULL STOPrTEN FU
LL STOPmHIRTEEN FULL STOPrWELVE FULL STOPnNTY FULL STOPuERO SIGNjSHU CHARACTER-1B170b1b2b3b4b5b6b7b8b9bAbBbC
bDbEbFc80b1b2b3b4b5b6b7b8b9bAbBbCbDbEbFc90b1b2b3b4b5b6b7b8b9bAbBbCbDbEbFcA0b1b2b3b4b5b6b7b8b9bAbBbCbDbEbFcB0
b1b2b3b4b5b6b7b8b9bAbBbCbDbEbFcC0b1b2b3b4b5b6b7b8b9bAbBbCbDbEbFcD0b1b2b3b4b5b6b7b8b9bAbBbCbDbEbFcE0b1b2b3b4b
5b6b7b8b9bAbBbCbDbEbFcF0b1b2b3b4b5b6b7b8b9bAbBbCbDbEbFd200b1b2b3b4b5b6b7b8b9bAbBbCbDbEbFc10b1b2b3b4b5b6b7b8b
9bAbBbCbDbEbFc20b1b2b3b4b5b6b7b8b9bAbBbCbDbEbFc30b1b2b3b4b5b6b7b8b9bAbBbCbDbEbFc40b1b2b3b4b5b6b7b8b9bAbBbCbD
bEbFc50b1b2b3b4b5b6b7b8b9bAbBbCbDbEbFc60b1b2b3b4b5b6b7b8b9bAbBbCbDbEbFc70b1b2b3b4b5b6b7b8b9bAbBbCbDbEbFc80b1
b2b3b4b5b6b7b8b9bAbBbCbDbEbFc90b1b2b3b4b5b6b7b8b9bAbBbCbDbEbFcA0b1b2b3b4b5b6b7b8b9bAbBbCbDbEbFcB0b1b2b3b4b5b
6b7b8b9bAbBbCbDbEbFcC0b1b2b3b4b5b6b7b8b9bAbBbCbDbEbFcD0b1b2b3b4b5b6b7b8b9bAbBbCbDbEbFcE0b1b2b3b4b5b6b7b8b9bA
bBbCbDbEbFcF0b1b2b3b4b5b6b7b8b9bAbBpITERATION MARKsT AND BOLTlYIAKENG PUACHUE HMONG CIRCLED CAkDIGIT EIGHTfF
IVEdOUReNINEeONEdSEVENeIXdTHREEeWOdZEROkLETTER AaAcCAcDAbLAdEaEcFAcGAcHAaHdIbKAcLAcMAbLAdNAbCAcKAcPAbLAdQAcR
AcTAbSAcXAdYAdOaOcPAbLAdQAcRAbRAdSAcTAbSAcXAdUbVAcWbXAbYAdYAcZAiOGOGRAM NYAJnSIGN FOR ANIMALgINVERTEBRATEmLO
CATIONiPERSONgTHINGjXW XWjYLLABLE LENGTHENERtTONE-BbDbGbJbMbSbV"

/-- The names that start with O. -/
def namesO : String := "aOBJECT REPLACEMENT CHARACTERzbLIQUE ANGLE OPENING DOWNeUPqHYPHENmSERVER EYE SYMBOLsCR AMOUNT OF CHECKpBEL
T BUCKLEkOW TIEgRANCH BANK IDENTIFICATIONzbCHAIReUSTOMER ACCOUNT NUMBERxDASHdOUBLE BACKSLASHqFORKeHOOKeINVER
TED FORKpTAGONAL SIGNlOPUSgDENdFFICE BUILDINGoGHAM FEATHER MARKmLETTER AILMeBEITHfCEIRTeOLLeDAIReEABHADHfDHA
DHfMHANCHOLLlFEARNfGORTeIFINdODHADHhLUISeMUINeNGEADALgIONeONNcRcPEITHfRUISeSAILdTRAIFgTINNEfUATHdILLEANNhRjR
EVERSED FEATHER MARKvSPACE MARKoONEKfHM SIGNhIL DRUMhK HAND SIGNlL CHIKI AHADeDIGIT EIGHTfFIVEdOUReNINEeONEd
SEVENeIXdTHREEeWOdZEROkGAAHLAA TTUDDAAGqLETTER AAJbKbMbWcGbLbNGcTcEDDcNbPbRRdIHbNYcRbScLAaAcEbIbObUcOBbHbTTc
VcUCbDbNNcYjMU TTUDDAGi-GAAHLAA TTUDDAAGtPHAARKAAhUNCTUATION DOUBLE MUCAADnMUCAADsRELAAmD CHINESE HOOK MARKj
ITERATION MARKwHUNGARIAN CAPITAL LETTER AaAbKbMBcNDdCLOSE EhEaBbCaHbScDbEbFbGaYcHbJbKbLaYcMaPcNaCbTa-SHAPE
D SIGNnYcPbRbSaZcTaYcVbZaSdIaIcNIKOLSBURG OEcUEnOaEEcOcRUDIMENTA OEcUEmSHORT ERiUaNKcSbUrNUMBER FIFTYdVEeONE
a HUNDREDhTHOUSANDmTENkSMALL LETTER AaAbKbMBcNDdCLOSE EhEaBbCaHbScDbEbFbGaYcHbJbKbLaYcMaPcNaCbTa-SHAPED SIGN
nYcPbRbSaZcTaYcVbZaSdIaIcNIKOLSBURG OEcUEnOaEEcOcRUDIMENTA OEcUEmSHORT ERiUaNKcSbUzITALIC LETTER AbBEcCHEdDE
cEaFbKScLbMbNbRaScSaHbSdHEcIaIcKAbEbHEcUcNORTHERN TSEmObPEbHEdSHEcOUTHERN TSEmTEbHEdUaUcVEcYEcZEjNUMERAL FIF
TYdVEeONEdTENsKEYdNORTH ARABIAN LETTER AINcLEFeBEHdDADbLdES-1b2b3eFEHdGEEMdHAINfHAHcEHdKAFcHAHeLAMdMEEMeNOON
eQAFdREHdSADdTAHcEHcHALcEHeWAWdYEHdZAHbINlNUMBER ONEdTENcWENTYzcPERMIC LETTER ANcBURdCHERYfDOIcZHOIdITAfEaFc
GAIdHAcIaAbEcKOKEeLEIdMENOEfNENOEfOaOcPEEIeREIdSHCHOOIfOOIeIIdTAIcSIUeUbVERcOOIeYAaTcERaIbUdRYcUcZATAdHOIpSI
AN NUMBER HUNDREDhONEdTENcWENTYeOkSIGN AaURAMAZDAAa-2cHAmBAaGAdUUMISHhCAcDAaHYAAUSHa-2kIbUcFAcGAbUcHAcIbJAbI
cKAbUcLAcMAbIbUcNAbUcPAcRAbUcSAbHAcSAdTAbHAcUcUbVAbIcXAbSHAAYATHIYAmYAcZAhWORD DIVIDERqONAL COMPUTERrSOGDIA
N FRACTION ONE HALFrLETTER ALEPHdTERNATE AYINnYINeBETHeFINAL ALEPHfBETHeHEcNUNa WITH VERTICAL TAILwSADHEa WI
TH VERTICAL TAILyTAWa WITH VERTICAL TAILzdGIMELfHEaTHeKAPHeLAMEDHgMEMdNUNdPEcRESH-AYIN-DALETHqSADHEdMEKHfHIN
eTAWdWAWdYODHeZAYINlIGATURE AYIN-DALETHuNUMBER FIVEdOUReONEa HUNDREDlTENcHIRTYeREEeWENTYeOqUTH ARABIAN LETTE
R ALEFdYNdBETHeDALETHfHADHEdLETHhFEcGHAYNeIMELfHEaTHeKAPHdHETHfLAMEDHgMEMdNUNdQOPHeRESHeSADHEdMEKHeTcHINeTAW
cETHdHAWcETHfWAWdYODHeZAYNlNUMBER FIFTYfONEhERIC INDICATORzgTURKIC LETTER ORKHON AaBbDbEBbDbGbKbLbNbRbSbTbYc
GbLbNbQbRbSaHcTbYcBASHeECbLTcMbNCbGbTbYcPbSHcZcIaCbQcOaEaKcPbQbTjYENISEI AaBbDbEaBbGbKbNaGcTbYcGbLbNGcQbRbSH
cTbYcEaCbNCbTbYcSHcZcIaQcOEaKcQyUYGHUR COMBINING DOT ABOVEfBELOWjTWO DOTS ABOVEfBELOWyLETTER ALEPHfBETHeFINA
L HETHkGIMEL-HETHkKAPHeLAMEDHfESHeMEMdNUNdPEcRESHeSADHEdMEKHfHINeTAWdWAWdYODHeZAYINmPUNCTUATION BARdFOUR DOT
SjTWO BARSeDOTSzdER ADULTfMANdWOMANjIVEeM SYMBOLiN WITH EXCLAMATION MARK WITH LEFT RIGHT ARROW ABOVEzzCOMIN
G AUTOMOBILEkBUSdFIRE ENGINElPOLICE CARkTAXIlE BUTTON MOUSEmDOT LEADERgOVER TWO DOTS PUNCTUATIONzf-PIECE SWI
MSUITqIONePEN BOOKcXdCENTRE ASTERISKiBLACK STARkCROSSfTEARDROP-SPOKED ASTERISKzgFILE FOLDERkOLDERgHANDS SIGN
kLOCKeMAILBOX WITH LOWERED FLAGmRAISED FLAGySUBSETePERSETj-CIRCUIT-OUTPUT H-TYPE SYMBOLnL-TYPE SYMBOLzdOUTLI
NED RIGHTWARDS ARROWzcRATING SYSTEM COMMANDwHIUCHUShPOSITIONiTICAL DISCa ICONnON KEYjR WITH DOT INSIDEqANG
E BOOKeHEARThUTANhIGINAL OFiYA AI LENGTH MARKnU LENGTH MARKoDIGIT EIGHTfFIVEdOUReNINEeONEdSEVENeIXdTHREEeWOd
ZEROkFRACTION ONE EIGHTHgHALFeQUARTERhSIXTEENTHnTHREE QUARTERSiSIXTEENTHSzISSHARgLETTER AaAbIbUcBAbHAdCAbHAd
DAbDAbHAdHAdEbGAbHAdHAcIaIcJAbHAdKAbHAdLAbLAdMAcNAbGAcNAcYAdObPAbHAdRAbHAcRAdSAbHAcSAdTAbHAcTAbHAeUaUcVAbOCA
LIC LaLcRaRkWAcYAbYAkSIGN ANUSVARAhVAGRAHAiCANDRABINDUlNUKTAfOVERLINEiVIRAMAeSARGAmVOWEL SIGN AAbIbUcEbIaIcO
bUaUcVOCALIC LaLcRaRzNATE LEFT PARENTHESISqRIGHT PARENTHESISwTHODOX CROSSnSAGE CAPITAL LETTER AaHbIaNdBRAdCH
AdDHAdEaHCHAdKAcPAcTAbSAeINdGHAdHAbYAdIbKAbHAcYAdLAcMAcNAcOaINdPAcSAbHAdTAbSAbHAeUbWAcZAbHAsSMALL LETTER AaH
bIaNdBRAdCHAdDHAdEaHCHAdKAcPAcTAbSAeINdGHAdHAbYAdIbKAbHAcYAdLAcMAcNAcOaINdPAcSAbHAdTAbSAbHAeUbWAcZAbHAuCbMAN
YA DIGIT EIGHTfFIVEdOUReNINEeONEdSEVENeIXdTHREEeWOdZEROkLETTER AaAbLEFeBAcCAYNeDEELdHAdEaEcFAcGAcHAcIbJAcKAA
FdHAdLAANeMIINeNUUNeOaOcQAAFeRAcSAbHIINfTAcUbWAWdXAcYAqTTERcOMAN SIYAQ ALTERNATE NUMBER EIGHTfFIVEdOURa HUND
REDmNINEeSEVENeIXa HUNDREDlTENa THOUSANDlHREEeWOa THOUSANDzeFRACTION ONE HALFeSIXTHsMARRATANiNUMBER EIGHTa H
UNDREDhTHOUSANDjYa THOUSANDpFIFTYa THOUSANDmVEa HUNDREDhTHOUSANDmORTYa THOUSANDmURa HUNDREDhTHOUSANDnNINEa H
UNDREDhTHOUSANDjTYa THOUSANDpONEa HUNDREDhTHOUSANDmSEVENa HUNDREDhTHOUSANDjTYa THOUSANDpIXa HUNDREDhTHOUSAND
jTYa THOUSANDoTENa THOUSANDlHIRTYa THOUSANDnREEa HUNDREDhTHOUSANDnWENTYa THOUSANDnOa HUNDREDhTHOUSANDzhUNC
E SIGNiTBOX TRAYiLINED BLACK STARkGREEK CROSSlLATIN CROSSlWHITE STARsVERHEATED FACElLAPaPING BLACK SQUARESnW
HITE AND BLACK SQUARESrSQUARESuINEhWLcXbYSTER"

/-- The names that start with P. -/
def namesP : String := "aPACKAGEfDaDING CHARACTERpGEa FACING UPjWITH CIRCLED TEXTlURLkRbScODAeHAWH HMONG CLAN SIGN FAJdHAMbWJeKHABdO
OcWMdLAUJdISdMUASePHABeTHOJdSABcHEEJeWBeVAJcWJdXYOOJfYAJcEEGnONSONANT AUcCAUcHAUeHAUcLAUdNAUeLAUdMAUdNAUcCHA
UeKAUdLAUdTHAUdSAUfPLHAUfQHAUeRAUdVAUdXAUdYAUnDIGIT EIGHTfFIVEdOUReNINEeONEdSEVENeIXdTHREEeWOdZEROkMARK CI
M HOMdKEScHAVeSObUAMeTAUMdUBmNUMBER HUNDRED MILLIONSjSiMILLIONSiTEN BILLIONSiTHOUSANDSkSdRILLIONSqSIGN AVcCI
M CHEEMeUAM TSHOOJlHAIS LUS NTOG NTOGsNRES TOSiPUB DAWBiTSOV ROGhXWVa CHWVnHLIcNUBeIB YAMgLOSdMEEJ SUABeTSEE
BjUSdNQIGdTUJeTAUcHIRD-STAGE HLIoXHEEJ CEEVlVOS FEEMeLUBdNRUAeSEEVeTHIABdOMdSHAB CEEBoXAUSdIABdYEEM FAIBeNTX
IVfRHOdTOVhOOeZWJ THAJnVOWEL KAABbVcBbIBbVcUBbVcVbWBbVdEBbEBbVcVcIABbVcBbVcOBbOBbVcVcUABbVcBbVcWBbVuLLASdM B
RANCHgDOWN HANDjTREEeUP HANDiS UP TOGETHERnYRENE LEFT-POINTING FLEURONtTTER ALEPHeYINeBETHeDALETHgFINAL NUNj
GIMELfHEaTHeKAPHeLAMEDHgMEMdNUNdPEcQOPHeRESHeSADHEdMEKHfHINeTAWcETHeWAWdYODHeZAYINmNUMBER FIVEdOUReONEdTENcH
REEeWENTYeOkRIGHT-POINTING FLEURONzfNCAKESfDA FACEiPERCLIPhRACHUTEfGRAPH SEPARATORkOScUS MARKmLLEL TOcWITH H
ORIZONTAL STROKErTILDE OPERATORzENTHESIZED DIGIT EIGHTfFIVEdOUReNINEeONEdSEVENeIXdTHREEeWOjHANGUL CHIEUCHa A
iIEUCa AbUhHIEUHa AhIEUNGa AhKHIEUKHa AiIYEOKa AiMIEUMa AhNIEUNa AhPHIEUPHa AiIEUPa AhRIEULa AhSIOSa AgTHIEU
THa AiIKEUTa ApIDEOGRAPH ALLIANCEiCALLdONGRATULATIONoEARTHeIGHTeNTERPRISEkFESTIVALhINANCIALhREcVEdOUReHAVEeL
ABORfMETALeOONeNAMEdINEeONEdREACHdPRESENThSOURCEfTeSELFcVENeIXcOCIETYgPECIALgTOCKdUDYeUNbPERVISEjTENcHREEeWO
dWATEReOODoKOREAN CHARACTER O HUdJEONwLATIN CAPITAL LETTER AbBbCbDbEbFbGbHbIbJbKbLbMbNbObPbQbRbSbTbUbVbWbXbY
bZqSMALL LETTER AbBbCbDbEbFbGbHbIbJbKbLbMbNbObPbQbRbSbTbUbVbWbXbYbZuNUMBER EIGHTEENhLEVENgFIFTEENgOURTEENiNI
NETEENiSEVENTEENiIXTEENhTENcHIRTEENhWELVEdNTYyROTdT ALTERNATION MARKrIAL DIFFERENTIALmLINE BACKWARDiDOWNeFOR
WARDhUPiLY-RECYCLED PAPER SYMBOLzcNERSHIP SIGNmY POPPERkSSED SYMBOLiNGER SHIPkIVE-PULL-DOWN-OUTPUT SYMBOLsUP
-OUTPUT SYMBOLzPORT CONTROLoU CIN HAU GLOTTAL STOPa FINALfVARIANTuLETTER AbBAcCAbHAdDAcEbFAbINAL KbLbMbNaGcP
bTbWbYhGAcHAcIaAcKAbHAdLAcMAcNAbGAdObPAbHAdRAcSAcTAbHAdUaAcVAcZAiOW-FALLING TONEa FINALfLONGa FINALzcMID-LEV
EL TONEa FINALfLONG FINALzRISING TONEa FINALfLONGa FINALwSANDHI GLOTTAL STOPa FINALsTONEa FINALfLONGa FINALz
hW PRINTSjDFbIcEACE SYMBOLiHbOCKeNUTSeRcDESTRIANiN OVER STAMPED ENVELOPEwCILdGUINeSIVE FACEjTAGRAMhOPLE HUGG
INGmR MILLE SIGNkSIGNeTEN THOUSAND SIGNsCENT SIGNjFORMING ARTSmMANENT PAPER SIGNrPENDICULARa WITH SrSEVERIN
G FACEmON BOWING DEEPLYnCLIMBINGiDOING CARTWHEELpFROWNINGiIN LOTUS POSITIONoSTEAMY ROOMoRAISING BOTH HANDS I
N CELEBRATIONziWITH BALLdLOND HAIRkCROWNfFOLDED HANDSmHEADSCARFjPOUTING FACEsAL COMPUTERnPECTIVEjSETA SIGNi
O SIGNhTRI DISHjHAGS-PA DOUBLE HEAD MARKqLETTER AaLTERNATE YAlSPIRATED FAmBAcCAaNDRABINDUkHAdDAbDAcZAdEaEcFA
cGAbGAdHAcIbJAcKAbHAdLAcMAcNAbGAcNAcYAdObPAbHAdQAcRAcSAbHAcMALL AhTAbHAcSAbHAdTAbHAeUbVOICED HAeLESS SHAnWAc
XAcYAcZAbHAkMARK DOUBLE SHADlSHADjSINGLE HEAD MARKpUBJOINED LETTER RAcWAcYArPERFIXED LETTER RAzbISTOS DISC S
IGN ARROWfBEEaHIVEgOOMERANGhWcULLS LEGjCAPTIVEfRPENTRY PLANEnTcHILDeLUBdOLUMNeMBaINING OBLIQUE STROKEyDOLIUM
eVEeEAGLEfFLUTEfGAUNTLEThRATERgHELMETfIDEdORNeLIDbLYeMANACLESgTTOCKhOX BACKhPAPYRUSgEDESTRIANjLANE TREEiUME
D HEADlRAMcOSETTEhSAWcHIELDdPdLINGeMALL AXEiTRAINERiTATTOOED HEADmIARAeUNNYfVINEeWAVY BANDiOMANwILIPPINE DOU
BLE PUNCTUATIONsSINGLE PUNCTUATIONzcOENICIAN LETTER AINcLFdBETdDELTeGAMLeHEaTdKAFdLAMDeMEMdNUNdPEcQOFdROSHeS
ADEdEMKdHINeTAUcETdWAUdYODdZAIkNUMBER ONEa HUNDREDlTENcHREEeWENTYeOkWORD SEPARATORwLUSfICKaUP TRUCKkEbGa FAC
EeNOSEgLCROW SIGNjE OF POOiLcNATAdCHED FINGERSkING HANDkE DECORATIONlAPPLEgWHEEL STARlSCESdTOLeTCHFORKa WIT
H TEE TOPvLACARDdE OF INTEREST SIGNnWORSHIPnNCK CONSTANTa OVER TWO PIyYGROUND SLIDEmING CARD ACE OF CLUBSfDI
AMONDSiHEARTSgSPADESnBACKdLACK JOKERlEIGHT OF CLUBSfDIAMONDSiHEARTSgSPADESpFIVE OF CLUBSfDIAMONDSiHEARTSgSPA
DESnOOLcUR OF CLUBSfDIAMONDSiHEARTSgSPADESoJACK OF CLUBSfDIAMONDSiHEARTSgSPADESoKING OF CLUBSfDIAMONDSiHEART
SgSPADESnNIGHT OF CLUBSfDIAMONDSiHEARTSgSPADESqNINE OF CLUBSfDIAMONDSiHEARTSgSPADESoQUEEN OF CLUBSfDIAMONDSi
HEARTSgSPADESpRED JOKERjSEVEN OF CLUBSfDIAMONDSiHEARTSgSPADESoIX OF CLUBSfDIAMONDSiHEARTSgSPADESnTEN OF CLUB
SfDIAMONDSiHEARTSgSPADESmHREE OF CLUBSfDIAMONDSiHEARTSgSPADESoRUMP-1a0b1b2b3b4b5b6b7b8b9c2a0b1c3b4b5b6b7b8b9
gWO OF CLUBSfDIAMONDSiHEARTSgSPADESnWHITE JOKERwDbUaNGEReS SIGNa ABOVE EQUALS SIGNrIN LEFT HALF CIRCLEqRIGH
T HALF CIRCLErTRIANGLElWITH BLACK TRIANGLEoCIRCUMFLEX ACCENT ABOVExDOT BELOWjSMALL CIRCLE ABOVErUBSCRIPT TWO
nTILDE ABOVEfBELOWw-MINUS SIGNmTOa FORM FIVEdOUReTHREEeWOnMbOCKET CALCULATORpLICE CARaS REVOLVING LIGHTuOFFI
CERmODLEeP DIRECTIONAL FORMATTINGkISOLATEuCORNfRTABLE STEREOnSEIDONfITION INDICATORpTAL HORNeMARKa FACEmBOXf
T OF FOODiABLE WATER SYMBOLqTOdTED PLANTkUCHcLTRY LEGiND SIGNhRING LIQUIDlTING CAT FACEiFACEkWER ON SYMBOLh-
OFF SYMBOLnSLEEP SYMBOLlYMBOLlRAYER BEADSkECEDESa ABOVE ALMOST EQUAL TOpEQUALS SIGNlNOT ALMOST EQUAL TOpEQUA
L TOmSINGLE-LINE EQUALS SIGNlNOT EQUAL TOzfBUT NOT EQUIVALENT TOvOR EQUAL TOfIVALENT TOqUNDER RELATIONuGNAN
T MANdPERSONgWOMANlSCRIPTION TAKEnENTATION FORM FOR VERTICAL COLONdMMAfEM DASHgN DASHgXCLAMATION MARKqHORIZO
NTAL ELLIPSIStIDEOGRAPHIC COMMAfFULL STOPvLEFT ANGLE BRACKETnBLACK LENTICULAR BRACKETyCORNER BRACKETnURLY BR
ACKETnDOUBLE ANGLE BRACKETuPARENTHESISlSQUARE BRACKEToTORTOISE SHELL BRACKETwWHITE CORNER BRACKEToLENTICULA
R BRACKETzdOW LINEiQUESTION MARKnRIGHT ANGLE BRACKETnBLACK LENTICULAR BRACKETyCORNER BRACKETnURLY BRACKETnDO
UBLE ANGLE BRACKETuPARENTHESISlSQUARE BRACKEToTORTOISE SHELL BRACKETwWHITE CORNER BRACKEToLENTICULAR BRACKET
eKCETzfSEMICOLONjTWO DOT LEADERoWAVY LOW LINEzqTZELeVIOUS PAGElIMEcNCEaSSeT SCREEN SYMBOLoERa ICONjVACY MESS
AGEkTE USE ONEdTWOe-1b2lOBING CANEjHIBITED SIGNmJECTIVEhPERTY LINEjORTIONaAL TOmSERPINAjSALTER PAHLAVI FOU
R DOTS WITH CROSSfDOTsLETTER ALEPHfBETHeDALETHgGIMELfHEaTHeKAPHeLAMEDHgMEM-QOPHiNUNdPEcSADHEdMEKHfHINeTAWdWA
W-AYIN-RESHnYODHeZAYINmNUMBER FOUReONEa HUNDREDlTENcHREEeWENTYeOkSECTION MARKmTURNED SECTION MARKzjU1b2bBLI
C ADDRESS LOUDSPEAKERyNCTUATION SPACElS ELEVATUS MARKtRPLE HEARTjSEdSHPINfT LITTER IN ITS PLACE SYMBOL"

/-- The names that start with Q. -/
def namesQ : String := "aQUADRANT LOWER LEFTeRIGHTlUPPER LEFTa AND LOWER LEFT AND LOWER RIGHTuRIGHTlUPPER RIGHT AND LOWER LEFTeRIGHT
zlRIGHTa AND LOWER LEFTa AND LOWER RIGHTzvUPLE INTEGRAL OPERATORrPRIMEmRTER NOTEjTERNION INTEGRAL OPERATORzb
ESTION EXCLAMATION MARKqMARKfED EQUAL TOrINCUNXgOTATION MARK"

/-- The names that start with R. -/
def namesR : String := "aRABBITa FACEjCCOONeING CARdMOTORCYCLEpDICAL SYMBOL BOTTOMrOa BUTTONhACTIVE SIGNoILWAY CARdTRACKkNaBOWeSED B
ACK OF HANDmCOMMAfDOTaTED INTERPOLATION MARKERzcFISTeHANDa WITH FINGERS SPLAYEDpPART BETWEEN MIDDLE AND RIN
G FINGERSzvINTERPOLATION MARKERuMC SIGNgD SIGNgR SIGNhSQUARElMbTaIOdZOReECEIPTeORD SEPARATORnREATIONAL VEHIC
LErYCLED PAPER SYMBOLpING SYMBOL FOR GENERIC MATERIALSrTYPE-1 PLASTICSk2 PLASTICSk3 PLASTICSk4 PLASTICSk5 PL
ASTICSk6 PLASTICSk7 PLASTICSzjD APPLEfGIFT ENVELOPEpFERENCE MARKmGIONAL INDICATOR SYMBOL LETTER AbBbCbDbEbFb
GbHbIbJbKbLbMbNbObPbQbRbSbTbUbVbWbXbYbZzfSTERED SIGNnJANG CONSONANT SIGN HbNaGcRqLETTER AbBAcCAcDAcGAcHAcJAc
KAcLAcMAbBAdNAbDAcGAbGAdYAbJAePAcRAcSAcTAcWAcYAjSECTION MARKmVIRAMAfOWEL SIGN AIbUcEaAbUcIbObUrLIEVED FACElM
INDER RIBBONnPLACEMENT CHARACTERtSPONSEfTRICTED LEFT ENTRY-1b2sOOMgTURN LEFTeRIGHTfSYMBOLlVERSE CHECKER BOAR
DnINDEXfLIGHT FOUR POINTED PINWHEEL STARzfNE FEEDjSOLIDUSa OPERATORiPRECEDING SUBSETqWITH HORIZONTAL STROKEz
fTILDE OPERATOR ABOVE LEFTWARDS ARROWpRIGHTWARDS ARROWznD ANGLEa WITH UNDERBARtCOMMAfDOUBLE PRIMEa QUOTATIO
N MARKuSTROKE NOT SIGNwEMPTY SETjFORKED PARAGRAPHOSsHAND WITH MIDDLE FINGER EXTENDEDzhNOT SIGNiPILCROW SIGNl
RIMEfQUESTION MARKnRAISED HAND WITH FINGERS SPLAYEDzgIGHT ANGLEkOTATED FLORAL HEART BULLETzcSANS-SERIF CAPIT
AL LtEMICOLONjTHUMBS DOWN SIGNjUP SIGNnILDEa EQUALSlRIPLE PRIMEmVICTORY HANDsOLVING HEARTSpHINOCEROSjIaAL SI
GNhBBONa ARROW DOWN LEFTeRIGHTkLEFT DOWNeUPhRIGHT DOWNeUPiUP LEFTeRIGHTtCE BALLeCRACKERkFLEdGHT AND LOWER ON
E EIGHTH BLOCKwUPPER ONE EIGHTH BLOCKyGER BUBBLEjLEa BRACKETa WITH DOTqDOTTED SUBSTITUTION MARKERzbSUBSTITUT
ION MARKERtVARIANT WITH SQUAREtWITH ARCdDOWNWARDS ZIGZAG ARROWzhRC GREATER-THAN BRACKETwROW WITH CIRCLED PLU
SmSMALL CIRCLExBLACK LENTICULAR BRACKETsTORTOISE SHELL BRACKETzdCEILINGgORNER BRACKETnURLY BRACKETa LOWER HO
OKkMIDDLE PIECEmUPPER HOOKyDOTTED SUBSTITUTION BRACKETzUBLE ANGLE BRACKETmRROW WITH ROUNDED HEADxPARENTHESIS
lQUOTATION MARKoWIGGLY FENCEtFISH TAILhVE EIGHTHS BLOCKrLOORfHALF BLACK CIRCLEgSTARiOCKfFOLDERgMEDIUM SHADEm
RUNNING MANoND TELEPHONE RECEIVERxLOW PARAPHRASE BRACKETwNORMAL FACTOR SEMIDIRECT PRODUCTzhONE EIGHTH BLOCKm
QUARTER BLOCKqPEN SQUARED DOTpUTER JOINkPARENTHESISa EXTENSIONjLOWER HOOKkUPPER HOOKwRAISED OMISSION BRACKET
xS-SHAPED BAG DELIMITERvEMIDIRECT PRODUCTqVEN EIGHTHS BLOCKsIDEWAYS U BRACKETqNGLE QUOTATION MARKuPEAKERa WI
TH ONE SOUND WAVEoTHREE SOUND WAVESzcECH BUBBLEmQUARE BRACKETa EXTENSIONjLOWER CORNERmUPPER CORNERmWITH DOUB
LE STROKEnQUILLfSTROKEgTICK IN BOTTOM CORNERnTOP CORNERsUNDERBARzcUBSTITUTION BRACKETuTACKdHIRD WHITE RIGH
T POINTING INDEXzfOUGHT BUBBLEmREE EIGHTHS BLOCKnQUARTERS BLOCKtORTOISE SHELL BRACKETvRANSPOSITION BRACKETtI
ANGLEa ABOVE LEFT TRIANGLEwULAR ONE QUARTER BLOCKzdVERTICAL BAR WITH QUILLnOX LINErWHITE CORNER BRACKETnURL
Y BRACKETnLENTICULAR BRACKETsPARENTHESISlSQUARE BRACKEToTORTOISE SHELL BRACKETzcIGGLY FENCEn-FACING ARMENIA
N ETERNITY SIGNwFISTeSVASTI SIGNa WITH DOTSzdHANDED INTERLACED PENTAGRAMzcPOINTING ANGLE BRACKETnCURVED ANGL
E BRACKETuDOUBLE ANGLE QUOTATION MARKzcMAGNIFYING GLASSzSHADED WHITE RIGHTWARDS ARROWzdIDE ARC CLOCKWISE ARR
OWyTO-LEFT EMBEDDINGjISOLATEhMARKeOVERRIDErHAND INTERIOR PRODUCTvWARDS ARROWa ABOVE ALMOST EQUAL TOpREVERS
E ALMOST EQUAL TOpTILDE OPERATORwSHORT LEFTWARDS ARROWvTILDE OPERATORtND UPPER AND LOWER ONE EIGHTH BLOCKzlF
ROM BARa TO BLACK DIAMONDzOVER LEFTWARDS ARROWuTHROUGH GREATER-THANmSUPERSETiXiO BARcLACK DIAMONDqWITH CORNE
R DOWNWARDSqDOTTED STEMjUBLE VERTICAL STROKEwEQUILATERAL ARROWHEADvHOOKeLARGE TRIANGLE ARROWHEADxOOPeMEDIU
M TRIANGLE ARROWHEADzNOTCHED TAILmPLUS BELOWkSMALL EQUILATERAL ARROWHEADvTRIANGLE ARROWHEADxTROKEgTAILa WIT
H DOUBLE VERTICAL STROKEwVERTICAL STROKEyIP DOWNWARDSjUPWARDSlVERTICAL STROKEv-TAILkBACK-TILTED SHADOWED WHI
TE ARROWzgLACK ARROWfCIRCLED WHITE ARROWyOTTOM SHADED WHITE ARROWzCOMPRESSED ARROWqDASHED ARROWlOUBLE ARROW
a FROM BARiWITH STROKEgVERTICAL STROKEv-TAILkDASH ARROWrFINGER-POST ARROWqRONT-TILTED SHADOWED WHITE ARROWzi
HANDcRPOON OVER LEFTWARDS HARPOONwWITH BARB DOWN ABOVE LEFTWARDS HARPOON WITH BARB DOWNznBELOW LONG DASHpFRO
M BARiTO BARhWARDSjUP ABOVE LEFTWARDS HARPOON WITH BARB UPzeONG DASHjRIGHTWARDS HARPOON WITH BARB DOWNzoFRO
M BARiTO BARhWARDSyEAVY ARROWfCOMPRESSED ARROWwLEFT-SHADED WHITE ARROWxOPEN-HEADED ARROWrPAIRED ARROWSnQUADR
UPLE ARROWpRIGHT-SHADED WHITE ARROWxOCKETgSANS-SERIF ARROWpQUARED ARROWkIGGLE ARROWoTOP SHADED WHITE ARROWvR
IANGLE ARROWHEADk-HEADED ARROWa OVER LEFTWARDS TRIANGLE-HEADED ARROWzlTO BARgWITH BOLD SHAFTkDOUBLE HORIZONT
AL STROKErVERTICAL STROKEwHEAVY SHAFTlLONG TIP DOWNWARDSjUPWARDSqMEDIUM SHAFTmNARROW SHAFTmVERY HEAVY SHAFTz
cDASHED ARROWmPAIRED ARROWSzbPLE ARROWfDASH ARROWqWO HEADED ARROWn-HEADED ARROW FROM BARiWITH DOUBLE VERTICA
L STROKEwTAILa WITH DOUBLE VERTICAL STROKEwVERTICAL STROKEyRIANGLE ARROWHEADStVERTICAL STROKEzbTRIPLE DASH A
RROWzdWAVE ARROWjHITE ARROWa FROM WALLjWITHIN TRIANGLE ARROWHEADzvNGa ABOVEfBUOYeEQUAL TOiIN EQUAL TOlOPERAT
ORiPOINTgED PLANETjING BELLkSING DIAGONAL CROSSING FALLING DIAGONALqSOUTH EAST ARROWzpLEbIbMbOcOASTED SWEE
T POTATOsBOT FACEiCKaETeLL OF PAPERjED-UP NEWSPAPERoR COASTERhSKATEiING ON THE FLOOR LAUGHINGzcMAN AS SIGNhC
ENTURIAL SIGNoDENARIUS SIGNmIMIDIA SEXTULA SIGNtUPONDIUS SIGNoNUMERAL EIGHTeLEVENgFIFTYa EARLY FORMkTHOUSAND
mVEa HUNDREDhTHOUSANDmOUReNINEeONEa HUNDREDa THOUSANDqTHOUSANDa C DqREVERSED ONE HUNDREDuSEVENeIXa LATE FORM
nTENa THOUSANDlHREEeWELVEeOlQUINARIUS SIGNoSEMUNCIA SIGNlSTERTIUS SIGNnXTANS SIGNiULA SIGNlILIQUA SIGNmUNCI
A SIGNoOSTERfSEaTTEfTATED CAPITAL QjFLORAL HEART BULLETtHEAVY BLACK HEART BULLETyLIGHT FOUR POINTED BLACK CU
SPzeWHITE FOUR POINTED CUSPzeUND PUSHPINhTARGEThED SYMBOL FOR CAIdFUcLUcSHOUcUANGXIiXItWBOATgSbUBLE SIGNiGB
Y FOOTBALLmLE-DELAYEDkMI DIGIT EIGHTfFIVEdOUReNINEeONEdSEVENeIXdTHREEeWOjFRACTION ONE HALFeQUARTERhTHIRDjTW
O THIRDStNUMBER EIGHT HUNDREDiYgFIFTYdVE HUNDREDlORTYdUR HUNDREDmNINE HUNDREDiTYgONE HUNDREDlSEVEN HUNDREDiT
YgIX HUNDREDiTYfTENcHIRTYeREE HUNDREDmWENTYeO HUNDREDvNIC ARLAUG SYMBOLnBELGTHOR SYMBOLpCROSS PUNCTUATIONrLE
TTER AC AdESCdLGIZ EOLHXkNSUZ AhBERKANAN BEORC BJARKAN ByCaALCdEALCdNcWEORTHhDaAGAZ DAEG DlOTTED-LbNbPiEaARc
HWAZ EH EjNGcTHdFEHU FEOH FE FnRANKS CASKET ACbESCeEHcIScOSqGaARcEBO GYFU GjRdHAEGL HfGLAZ HiICELANDIC-YRlNG
aWAZfORcSAZ IS ISS ImWAZ EOHiJERAN JhKaAUN KcAfLAUKAZ LAGU LOGR LrONG-BRANCH-AR AEfHAGALL HiMADR MgOSS OfYRo
MANNAZ MAN MmNAUDIZ NYD NAUD NrOaEbNbObPEN-PfS OdTHALAN ETHEL OpPERTHO PEORTH PpQbRAIDO RAD REID RqSHaORT-TW
IG-AR AeBJARKAN BjHAGALL HiMADR MgNAUD NgOSS OfSOL SfTYR TfYRmIGEL LONG-BRANCH-SOL SwOWILO ShTANeTHURISAZ TH
URS THORNtIWAZ TIR TYR TpURUZ UR UjVbWaUNJO WYNN WmXbYaRcZiMULTIPLE PUNCTUATIONuSINGLE PUNCTUATIONsTVIMADU
R SYMBOLsNERcING SHIRT WITH SASHvPEE SIGNiSSIAN ASTROLOGICAL SYMBOL BINOVILEiNOVILEgQUINTILEiSENTAGONiTREDEC
ILEjVIGINTILE"

/-- The names that start with S. -/
def namesS : String := "aS IN TRIANGLEmAFETY PINdVESTjGITTARIUSjILBOATgKE BOTTLE AND CUPrLT SHAKERhIREeUTING FACElMARITAN ABBREVIATI
ON MARKrLETTER ALAFeBAAcITdDALATfFIcGAMANfINbTbYcKAAFeLABATfMIMdNUNdQUFdRISHeSHANdINGAAThTAAFdITcSAADIYhYUTd
ZENkMARK DAGESHgEPENTHETIC YUToINa-ALAFhNEQUDAAhOCCLUSIONnODIFIER LETTER EPENTHETIC YUToIbSHORT AxPUNCTUATIO
N AFSAAQfNGEDdNAAUfRKAANUgTMAAUgBAUdMELODIC QITSAnNEQUDAAhQITSAfSHIYYAALAAjOF MASHFAATmTURUeZAEFdIQAArVOWE
L SIGN AaAcEbIbLONG AaAcEbIbUgOaVERLONG AaAlSHORT AgUKUNfUuNDWICHfS-SERIF HEAVY DOUBLE COMMA QUOTATION MAR
K ORNAMENTzeTURNED COMMA QUOTATION MARK ORNAMENTzsLOW DOUBLE COMMA QUOTATION MARK ORNAMENTzvINTERROBANG ORNA
MENTzeRIcTELLITEa ANTENNAoURNeURASHTRA CONSONANT SIGN HAARUuDANDAeIGIT EIGHTfFIVEdOUReNINEeONEdSEVENeIXdTHRE
EeWOdZEROjOUBLE DANDAmLETTER AaAbIbUcBAbHAdCAbHAdDAbDAbHAdHAdEaEcGAbHAdHAcIaIcJAbHAdKAbHAdLAbLAdMAcNAbGAcNAc
YAdOaOcPAbHAdRAcSAbHAcSAdTAbHAcTAbHAeUaUcVAbOCALIC LaLcRaRkYAjSIGN ANUSVARAiCANDRABINDUlVIRAMAeSARGAmVOWEL S
IGN AAbIbUcEaEcIaIcOaOcUaUcVOCALIC LaLcRaRzdOPODgXOPHONEiCALESdRFdHOOLa SATCHELmIbOOTEReRPIONcUSgREENcWDRIVE
RiIPT CAPITAL BbEbFbHbIbLbMbPbRjLIGATURE ET ORNAMENTuSMALL EbGbLbOlOLLdUPLEgEALbTcCOND PLACE MEDALpTION SIGN
iOReDNAdE-NO-EVIL MONKEYpDLINGgGMENTaED DIGIT EIGHTfFIVEdOUReNINEeONEdSEVENeIXdTHREEeWOdZEROsLFIEeMICOLONfDI
RECT PRODUCT WITH BOTTOM CLOSEDziSEXTILEjPARATED SYMBOLoRIOUS FACE WITH SYMBOLS COVERING MOUTHzmVICE MARKkSA
ME DOThQUIQUADRATEmT MINUSfTRANSMIT STATEqWING NEEDLElXTILEgGCcHADOWED WHITE CIRCLEgLATIN CROSSlSTARqLLOW PA
N OF FOODqMROCKfRADA ABBREVIATION SIGNrCONTINUATION SIGNrDANDAeIGIT EIGHTfFIVEdOUReNINEeONEdSEVENeIXdTHREEeW
OdZEROjOUBLE DANDAmEKAMdXTRA SHORT VOWEL MARKwHEADSTROKEkLETTER AaAbIbUcBAbHAdCAbHAdDAbDAbHAdHAdEbGAbHAdHAcI
aIcJAbHAdKAbHAdLAbLAdMAcNAbGAcNAcYAdObPAbHAdRAcSAbHAcSAdTAbHAcTAbHAeUaUcVAbOCALIC LaLcRaRkYAjOMcSANDHI MARKk
ECTION MARK-1b2mPARATORiIGN ANUSVARAhVAGRAHAiCANDRABINDUlINVERTED CANDRABINDUuJIHVAMULIYAlNUKTAfSIDDHAMhUPAD
HMANIYAlVIRAMAeSARGAlUTRA MARKkVOWEL MODIFIER MARKnSIGN AAbIbUcEbIaIcObPRISHTHAMATRA EpUaUcVOCALIC LaLcRaRzK
cVED ICEgIAN LETTER ADOcGEcHbIRcREbRAYeSHcWEdBIBdCHURCHgDEADeEARbTcGGcRRdFEEdGAGdHA-HAeUNGeIANcCEcFcJUDGEfKI
CKeLOLLeMEASUREgIMEeNUNdOAKcILcNbOZEdRbUTdPEEPeROAReSObUREeTHEYcIGHeOTdUPcVOWdWOEbOLeYEAbWdZOOqEEPdIELDdFT I
NcOUTgNTO SHRINEkPcOCKED FACE WITH EXPLODING HEADzeOTING STARkPPING BAGSeTROLLEYnRT BACKSLANTED SOUTH ARROWw
ENT ARROW POINTING DOWNWARDS THEN NORTH EASTzuDOWN TACKa WITH OVERBARwLEFT TACKjRIGHTWARDS ARROW ABOVE LEFTW
ARDS ARROWznSLANTED NORTH ARROWtUP TACKa ABOVE SHORT DOWN TACKvWITH UNDERBARwCAKEeHAND FORMAT CONTINUING OVE
RLAPsDOWN STEPjLETTER OVERLAPoUP STEPtSdULDERED OPEN BOXqWEReRIMPdUGdUFFLE PRODUCTnYcIaDDHAM DANDAeOUBLE DAN
DAmEND OF TEXT MARKqLETTER AaAbIbLTERNATE UkUcBAbHAdCAbHAdDAbDAbHAdHAdEbGAbHAdHAcIaIcJAbHAdKAbHAdLAcMAcNAbGA
cNAcYAdObPAbHAdRAcSAbHAcSAdTAbHAbREE-CIRCLE ALTERNATE IxTAbHAdWO-CIRCLE ALTERNATE IaIxUaUcVAbOCALIC LaLcRaRk
YAjREPETITION MARK-1b2b3rSECTION MARK DOUBLE RINGa WITH RAYSvWITH CIRCLES AND FOUR ENCLOSURESpRAYSeTWO ENCLO
SURESzbDOUBLE CRESCENTSqQUADRUPLE CRESCENTStRAYS AND DOTTED CRESCENTSjDOUBLE CRESCENTSqTRIPLE CRESCENTSzhSEP
TUPLE CRESCENTSsTRIDENT AND DOTTED CRESCENTSqU-SHAPED ORNAMENTSzcPLE CRESCENTSzhPARATOR BARdDOTmIGN ANUSVARA
iCANDRABINDUlNUKTAfSIDDHAMhVIRAMAeSARGAmVOWEL SIGN AAbIbLTERNATE UaUlUcEbIaIcObUaUcVOCALIC RaRzbEWAYS BLAC
K DOWN POINTING INDEXtLEFT POINTING INDEXtRIGHT POINTING INDEXuUP POINTING INDEXxWHITE DOWN POINTING INDEXtL
EFT POINTING INDEXtRIGHT POINTING INDEXuUP POINTING INDEXzfGN OF THE HORNSnWRITING AIR BLOW SMALL ROTATIONSq
ING OUTlSUCK SMALL ROTATIONSqING INoBREATH EXHALEgINHALElUSH BETWEENhMULTIPLEiSINGLEmCHEEKS NEUTRALhPUFFEDgS
UCKEDmOLONdMMAfDREAMY EYEBROWS DOWN NEUTRALmNEUTRAL DOWNeUPkUP NEUTRALzYNAMIC ARROWHEAD LARGEfSMALLpEVERY OT
HER TIMEqFASTeGRADUALhRELAXEDhSIMULTANEOUSa ALTERNATINGxLOWeTENSEnEARSdXCITEMENTjYE BLINK MULTIPLEiSINGLEmWI
NKfBROWS STRAIGHT DOWNeNEUTRALhUPrGAZE-FLOORPLANE CURVEDgSTRAIGHTa ALTERNATINGlDOUBLEzbWALLPLANE CIRCLINGhUR
VEDgSTRAIGHTa ALTERNATINGlDOUBLEzfLASHES DOWNeFLUTTERINGkUPjS CLOSEDgHALF CLOSEDgOPENjOPENeSQUEEZEDiWIDE OPE
NfNING MOVEMENTwFACE DIRECTION POSITION NOSE FORWARD TILTINGpUP OR DOWNa TILTINGzvILL MODIFIER-2b3b4b5b6nNGE
RfLICK LARGE MULTIPLEiSINGLEmSEQUENTIALjMALL MULTIPLEiSINGLEqOORPLANE SHOULDER HIP MOVEzcOREHEAD CONTACThNEU
TRALhWRINKLEDqULL STOPjGRASP BETWEENhMULTIPLEiSINGLEmHAIRcND-ANGLEa INDEXa MIDDLE LITTLEgRINGlRING LITTLEa O
UTpTHUMBa INcOUTpLITTLE INDEXa THUMB INDEX THUMBa OUTzcUPjMIDDLE RING LITTLEa INcOUTwRING DOWN MIDDLE THUM
B INDEX CROSSzeLITTLErCIRCLEa INDEXa BENTeHINGEfMIDDLEa CROSS LITTLEhEDhLITTLEgRINGeTHUMBmRING LITTLErLITTL
E INDEXfUPjMIDDLE RING LITTLEa BENTqUPjRING LITTLErLAWa FOUR FINGERS CONJOINEDwINDEX THUMB CURVE THUMB INSID
EzfMIDDLE RING LITTLE CONJOINEDa SIDEziNO THUMBiTHUMB FORWARDhSIDEoUPa FIVE FINGERS SPREADa OPENyINDEXa RIN
G LITTLElTHUMBa OPENqMIDDLE RING LITTLEsNO THUMBiOPENa NO THUMBiTHUMB FORWARDhSIDEpTHUMB FORWARDhSIDEmRLICUE
a INDEX RING LITTLE ONuMIDDLE RING LITTLE ONvOPENnFISTa FOUR FINGERS CONJOINED BENTzcHEELeINDEXa BENTa OVE
R MIDDLEqCUPPEDgHINGEDa LOWdMIDDLE UPa THUMB SIDEzcMIDDLEa BENTa THUMB STRAIGHTtCONJOINEDa CUPPEDa THUMB FOR
WARDuHINGEDa THUMB SIDErINDEX BENTkMIDDLE BENTlTHUMB FORWARDhSIDEa BENTeCONJOINEDzeROSS LITTLEhEDa THUMB SID
EsHINGEDa SPREAD THUMB SIDEyLITTLEgRAISED KNUCKLESoINGa BENTeCONJOINEDoSTRAIGHT THUMB BENTtTHUMBa ANGLEDa OU
TkBENTeCIRCLEDgONJOINED HINGEDpUPPEDgHINGEDfOOKEDmUP SPREAD THUMB FORWARDzfRAISED KNUCKLEnING LITTLElTHUMB A
NGLED IN MIDDLE UPmOUT MIDDLE UPuCIRCLEaD MIDDLE UPqUPPED MIDDLE UPoRLICUEfVE THUMB INSIDEgUNDERrFORWARD IND
EX BENTeSTRAIGHTwHOOKaED MIDDLE HINGEDgUPqSIDEa BOTH BENTjINDEX BENTeHINGElTHUMB BENTeCONJOINEDjDIAGONALzU
P MIDDLE HINGEDa THUMB CONJOINEDjSIDEziLITTLE BENTeDOWNa OTHERS CIRCLEDoRIPPLE CURVEDgSTRAIGHTuINDEXa THUMBl
RAISED KNUCKLEoTHUMBeOUCHES THUMBnUPjMIDDLE BENT OVER INDEXpDOWNeLITTLEgRAISED KNUCKLEnING LITTLElTHUMB ANGL
ED INDEX UPiOUT INDEX CROSSEDhUPtCIRCLED INDEX HINGEDgUPpUPPED INDEX UPpHOOKED INDEX UPpLITTLEmUPa THUMB SID
EuRING DOWNeINDEXfLITTLEgMIDDLEa CONJOINEDjRAISED KNUCKLESwRAISED KNUCKLEoTHUMBfUPhTHUMBa BETWEEN INDEX MIDD
LEa STRAIGHTvMIDDLE RINGlRING LITTLEtFORWARDhHEELeOVER FOUR RAISED KNUCKLESuTWO FINGERSqSIDE BENTeCONJOINEDj
DIAGONALnUNDER FOUR FINGERSmINDEX BENTkLITTLE UPjTHREE FINGERSmWO FINGERSzcLATa BETWEEN PALM FACINGSuFIVE FI
NGERS SPREADa BENTeFOUR BENTjHINGEDa NO THUMBiTHUMB SIDErTHUMB FORWARDzhOUR FINGERSa BENTeCONJOINEDa SPLITpH
INGEDtHEELa FIVE FINGERS SPREADa BENTeFOUR BENTzeTHUMB SIDEpSPLIT CENTREa THUMB SIDEa BENTwINDEX THUMB SIDEq
LITTLEmTHUMB BENTeFORWARDhSIDEpHINGEa FIVE FINGERS SPREAD OPENxOUR FINGERS CONJOINEDwINDEXa HINGEDgMIDDLE LI
TTLEgRINGa CONJOINEDvRING LITTLElTHUMBa LARGEfOPENeSIDEdMALLrLITTLEa INDEXa THUMBlTHUMBmMIDDLEa RING LITTLEs
NO THUMBiOPENa NO THUMBiTHUMB FORWARDhSIDEpRINGa DOWN INDEX THUMB HOOK MIDDLEziSMALLfTHUMB BETWEEN MIDDLE RI
NGtSIDEa TOUCHING INDEXzfOOKa CURLICUEiINDEX RING LITTLE INcOUTdUNDERxMIDDLE RING LITTLE CONJOINEDa INcOUTzT
HUMBmRING THUMBpOVALa FIVE FINGERS SPREADtINDEXfLITTLE UPjNO THUMBiRING LITTLElTHUMB FORWARDhSIDEtEADa MOVEM
ENT CIRCLEh-FLOORPLANE CURVEfSTRAIGHTtWALLPLANE CURVEfSTRAIGHTiTILTxRIMiLIMB COMBINATIONlLENGTH-1b2b3b4b5b6b
7lP LOWER OVER UPPERqUPPER OVER LOWERrS PRESSED TOGETHERuOCATION DEPTHfHEAD NECKhIGHTgLIMBS DIGITSmTORSOfWID
THg-FLOORPLANE SPACEqWALLPLANE SPACEyMOUTH CLOSED CONTACThFORWARDhNEUTRALnORNERShFROWNa OPENeWRINKLEDoKISS
a FORWARDhWRINKLEDnOPEN CIRCLEgFORWARDhOVALa WRINKLEDiYAWNjRECTANGLEa WRINKLEDiYAWNoWRINKLEDnSMILEa OPENeWRI
NKLEDoTENSEa FORWARDhSUCKEDmWRINKLES DOUBLEgSINGLEtVEMENT-DIAGONAL AWAY LARGEaSThMEDIUMgSMALLkBETWEEN AWAY L
ARGEaSThMEDIUMgSMALLkTOWARDS LARGEaSThMEDIUMgSMALLvTOWARDS LARGEaSThMEDIUMgSMALLwFLOORPLANE ARM CIRCLE HITTI
NG WALL LARGE DOUBLEgSINGLEmMEDIUM DOUBLEgSINGLEnSMALL DOUBLEgSINGLEzlBENDdOX LARGEfMEDIUMgSMALLjCHECKeORNE
R LARGEfMEDIUMgSMALLlROSSeURVE COMBINEDiHITTING CEILING LARGEfSMALLnFLOOR LARGEfSMALLtLARGEaSThMEDIUMgSMALLl
DOUBLE ALTERNATINGa WRIST FLEXwSTRAIGHTiWRIST FLEXrFINGER CIRCLES HITTING WALL DOUBLEgSINGLEzbONTACToHUMP HI
TTING CEILING LARGE DOUBLEgTRIPLEmSMALL DOUBLEgTRIPLEuFLOOR LARGE DOUBLEmSMALL DOUBLEmTRIPLE LARGE TRIPLEmSM
ALL TRIPLEziSMALLkJAWdLOOP HITTING CEILING LARGE DOUBLEgSINGLEmSMALL DOUBLEgSINGLEuFLOOR LARGE DOUBLEgSINGLE
mSMALL DOUBLEgSINGLEzbSMALLkPEAKS LARGEfMEDIUMgSMALLlSHAKING PARALLELpINGLE STRAIGHT LARGEaSThMEDIUMgSMALLoW
RIST FLEXrTRIPLE ALTERNATING MOVEMENTiWRIST FLEXwSTRAIGHT MOVEMENTrWRIST FLEXrWAVE HITTING CEILING LARGEfSMA
LLnFLOOR LARGEfSMALLtLARGEfSMALLeNAKEjRIST CIRCLE HITTING WALL DOUBLEgSINGLEzhZIGZAG LARGEfMEDIUMgSMALLxHING
E DOWN SEQUENTIALpSIDE TO SIDE SCISSORSvUP DOWN ALTERNATING LARGEfSMALLrLARGEfSMALLkSEQUENTIALtWALLPLANE AR
M CIRCLE MEDIUM DOUBLEgSINGLEnSMALL DOUBLEgSINGLExBEND LARGEfMEDIUMgSMALLjOX LARGEfMEDIUMgSMALLjCHECK LARGEf
MEDIUMgSMALLkORNER LARGEfMEDIUMgROTATIONiSMALLlROSSeURVE HALF-CIRCLE LARGEaSThMEDIUMgSMALLqITTING CHESTfFRON
T WALLsQUARTER LARGEaSThMEDIUMgSMALLnTHEN STRAIGHTlREE-QUARTER CIRCLE MEDIUMgSMALLzcD CROSS MEDIUMgSMALLsDOU
BLE ALTERNATINGa WRIST FLEXwSTRAIGHTiWRIST FLEXrFINGER CIRCLES DOUBLEgSINGLEnONTACToHUMP HITTING CHESTfFRON
T WALLsLARGEfMEDIUMgSMALLkJAWdLOOP HITTING CHESTfFRONT WALLsLARGEfMEDIUMgSMALLa DOUBLErPEAKS LARGEfMEDIUMgSM
ALLlSHAKINGgINGLE STRAIGHT LARGEaSThMEDIUMgSMALLoWRIST FLEXrTRIPLE ALTERNATINGa WRIST FLEXwSTRAIGHT MOVEMENT
rWRIST FLEXrWAVE CURVE DOUBLE LARGEfMEDIUMgSMALLmTRIPLE LARGEfMEDIUMgSMALLsDIAGONAL PATH LARGEfMEDIUMgSMALLt
HITTING CHESTfFRONT WALLwRIST CIRCLE FRONT DOUBLEgSINGLEzZIGZAG LARGEfMEDIUMgSMALLzgNECKdOSE CONTACThNEUTRAL
hWIGGLESgRINKLESnPARENTHESISlROTATION MODIFIER-10b1b2b3b4b5b6c2b3b4b5b6b7b8b9l-FLOORPLANE ALTERNATINGa HITTI
NG CEILINGhFLOORzDOUBLEa HITTING CEILINGhFLOORuSINGLEa HITTING CEILINGhFLOORzgWALLPLANE ALTERNATEbING HITTIN
G CHESTfFRONT WALLzfDOUBLEa HITTING CHESTfFRONT WALLzSINGLEa HITTING CHESTfFRONT WALLzsUB BETWEENhMULTIPLEiS
INGLEkSEMICOLONiHOULDER HIP POSITIONSjSPINEjTILTING FROM WAISTzbQUEEZE FLICK ALTERNATINGrLARGE MULTIPLEiSING
LEmSEQUENTIALjMALL MULTIPLEiSINGLEtTRIKE BETWEENhMULTIPLEiSINGLEmURFACE BETWEENhSYMBOLSpTEETHa BITE LIPSjMOV
EMENTiON LIPSa MOVEMENTnTONGUEa MOVEMENTwNSE CHEEKS HIGHeLOWdMIDDLEsONGUE CENTRE INSIDE MOUTHmSTICKING OUTtI
NSIDE MOUTH RELAXEDuLICKING LIPSmMOVES AGAINST CHEEKtSTICKING OUT FARqTIP BETWEEN LIPSmTOUCHING INSIDE MOUTH
zfRSO-FLOORPLANE TWISTINGtWALLPLANE CURVED BENDlSTRAIGHT STRETCHzfUCH BETWEENhMULTIPLEiSINGLElRAVEL-FLOORPLA
NE ROTATION-FLOORPLANE ALTERNATINGlDOUBLEgSINGLErWALLPLANE ALTERNATINGlDOUBLEgSINGLEzSHAKINGsWALLPLANE ARM S
PIRAL DOUBLEgSINGLEgTRIPLErROTATION-FLOORPLANE ALTERNATINGlDOUBLEgSINGLErWALLPLANE ALTERNATINGlDOUBLEgSINGLE
zSHAKINGyUPPER BODY TILTING FROM HIP JOINTSzjWALLPLANE SHOULDER HIP MOVEzmLHOUETTE OF JAPANrMILAR ABOVE GREA
TER-THAN ABOVE EQUALS SIGNzfLESS-THAN ABOVE EQUALS SIGNziMINUS SIMILARnOR GREATER-THANmLESS-THANsNE WAVEgGL
E CHARACTER INTRODUCERuGRAPHIC CHARACTER INTRODUCERzdHIGH-REVERSED-9 QUOTATION MARKzfLEFT-POINTING ANGLE QUO
TATION MARKziOW-9 QUOTATION MARKuRIGHT-POINTING ANGLE QUOTATION MARKzkSHIFT THREEeWOk-SHIFT-2b3lHALA ARCHAI
C DIGIT EIGHTfFIVEdOUReNINEeONEdSEVENeIXdTHREEeWOjNUMBER EIGHTYgFIFTYeORTYfNINETYgONE HUNDREDhTHOUSANDmSEVEN
TYgIXTYfTENcHIRTYfWENTYvLETTER AAYANNAgEEYANNAgYANNAgIYANNAgLPAPRAANA BAYANNAhCAYANNAhDAYANNAgDAYANNAiGAYANN
AhJAYANNAhKAYANNAhPAYANNAhTAYANNAgTAYANNAsMBA BAYANNAlUYANNAgYANNAgDANTAJA LAYANNAhNAYANNAhSAYANNApEEYANNAgY
ANNAgFAYANNAhHAYANNAhIIYANNAgLUUYANNAgYANNAhRUUYANNAgYANNAhYANNAgKANTAJA NAASIKYAYAsMAHAAPRAANA BAYANNAhCAYA
NNAhDAYANNAgDAYANNAiGAYANNAhJAYANNAhKAYANNAhPAYANNAhTAYANNAgTAYANNAsYANNAgUURDHAJA LAYANNAhNAYANNAhSAYANNArO
OYANNAgYANNAgRAYANNAhSANYAKA DAYANNAgDAYANNAiGAYANNAhJAYANNApTAALUJA NAASIKYAYAkSANYOOGA NAAKSIKYAYAsYANNApU
UYANNAgYANNAgVAYANNAhYAYANNAnITH DIGIT EIGHTfFIVEdOUReNINEeONEdSEVENeIXdTHREEeWOdZEROpPUNCTUATION KUNDDALIYA
wSIGN AL-LAKUNAiNUSVARAYAkCANDRABINDUlVISARGAYAoVOWEL SIGN AELA-PILLAkDIGA AEDA-PILLAkGAETTA-PILLAkYANUKITTA
lIS-PILLAiKOMBUVAhPAA-PILLAoGAETTA-PILLAkYANUKITTAlKETTI AEDA-PILLAkIS-PILLAiPAA-PILLAoOMBU DEKAfVAa HAA AEL
A-PILLAkDIGA AELA-PILLApGAYANUKITTAzpX PETALLED BLACK AND WHITE FLORETTEzhOINTED BLACK STARkPINWHEEL STARnST
AR WITH MIDDLE DOTze-PER-EM SPACEnTEEN POINTED ASTERISKxKATEBOARDiI AND SKI BOOTnERdULLa AND CROSSBONESrNKeL
ANTED EQUAL TO OR GREATER-THANa WITH DOT INSIDEzdLESS-THANa WITH DOT INSIDEzmNORTH ARROW WITH HOOKED HEADjRI
ZONTAL TAILzmVONIC ASTERISKpEDbEPING ACCOMMODATIONnFACEeSYMBOLkY FACEiUTH OR SPYlICE OF PIZZAlGHTLY FROWNIN
G FACEnSMILING FACEtOPEbING LARGE ANDdORnT MACHINEiHeMALL AIRPLANEhMPERSANDiSTERISKiBLUE DIAMONDmCOLONdMMAbE
RCIAL ATlNTAINS AS MEMBERjWITH OVERBARhVERTICAL BAR AT END OF HORIZONTAL STROKEzzeDOLLAR SIGNlELEMENT OFa WI
TH OVERBARhVERTICAL BAR AT END OF HORIZONTAL STROKEzzfM DASHgQUALS SIGNkXCLAMATION MARKqFULL STOPjGREATER-TH
AN SIGNrHYPHEN-MINUSmIDEOGRAPHIC COMMArLEFT CURLY BRACKETnPARENTHESISlTORTOISE SHELL BRACKETzSS-THAN SIGNoNU
MBER SIGNlORANGE DIAMONDoPERCENT SIGNlLUS SIGNjQUESTION MARKnREVERSE SOLIDUSoIGHT CURLY BRACKETnPARENTHESISl
TORTOISE SHELL BRACKETzcOMAN NUMERAL EIGHTeLEVENgFIFTYdVEa HUNDREDlOUReNINEeONEa HUNDREDhTHOUSANDmSEVENeIXdT
ENcHREEeWELVEeOrSEMICOLONjTILDEeWO DOTS OVER ONE DOT PUNCTUATIONziVEE WITH UNDERBARsER THANa OR EQUAL TOvS
H PRODUCTlILEbING CAT FACE WITH HEART-SHAPED EYESrOPEN MOUTHyFACE WITH HALOdEART-SHAPED EYESqORNSfOPEN MOUTH
a AND COLD SWEATkSMILING EYESmTIGHTLY-CLOSED EYESzjSMILING EYESa AND HAND COVERING MOUTHtTHREE HEARTSzdUNGLA
SSESkTEARtRKING FACElOKING SYMBOLnNAILcKEdEEZING FACElOW CAPPED MOUNTAINqBOARDERhFLAKEfMANa WITHOUT SNOWtOaC
CER BALLiKSdFT HYPHENgICE CREAMjSHELL FLOPPY DISKsBALLeWARE-FUNCTION SYMBOLwGDIAN COMBINING CURVE ABOVEfBELO
WlDOT ABOVEfBELOWjHOOK ABOVEfBELOWkLONG HOOK BELOWpRESH BELOWkSTROKE BELOWmTWO DOTS ABOVEfBELOWyINDEPENDEN
T SHINqLETTER ALEPHeYINeBETHeFETHeGIMELfHEaTHeKAPHeLAMEDHfESHeMEMdNUNdPEcRESH-AYINjSADHEdMEKHfHINeTAWdWAWdYO
DHeZAYINmNUMBER ONEa HUNDREDlTENcWENTYnPUNCTUATION CIRCLE WITH DOTpHALF CIRCLE WITH DOTuTWO CIRCLES WITH DOT
SrVERTICAL BARSa WITH DOTSzuHbLID QUILT SQUARE ORNAMENTa IN BLACK SQUAREznUSa WITH OVERBARsM SIGNgON WITH RI
GHTWARDS ARROW ABOVEzfRA SOMPENG DIGIT EIGHTfFIVEdOUReNINEeONEdSEVENeIXdTHREEeWOdZEROkLETTER AHcBAHdCAHdDAHd
EEHcHcGAHdHAHdIHcJAHdKAHdLAHdMAEbHdNAHcGAHdYAHeOHcPAHdRAHdSAHdTAHdUHcVAHdYAHvSbUND RECORDING COPYRIGHTwTH EA
ST ARROWa AND SOUTH WEST ARROWuCROSSING NORTH EAST ARROWzTO CORNERjWITH HOOKpBLACK ARROWlDOUBLE ARROWmPOINTI
NG BUDdLEAFeVINE LEAFsSANS-SERIF ARROWqTRIANGLE-HEADED ARROWa TO BARzdWHITE ARROWqWEST ARROWa AND NORTH WES
T ARROWuWITH HOOKpBLACK ARROWlDOUBLE ARROWmPOINTING BUDdLEAFeVINE LEAFsSANS-SERIF ARROWqTRIANGLE-HEADED ARRO
Wa TO BARzdWHITE ARROWuYOMBO CLUSTER-INITIAL LETTER LAcRAcSAbHAzbFINAL CONSONANT SIGN -AcBbDbGbKbLbMbNaGcRbS
aHxGEMINATION MARKpHEAD MARK WITH MOON AND SUNa AND FLAMEfTRIPLE FLAMEztLETTER -AcAbBAbHAdCAbHAdDAbDAbHAdHAc
ZAdGAbHAdHAcJAbHAdKAbHAcSSAeLAcMAcNAbGAcNAcYAdPAbHAdRAcSAbHAcSAdTAbHAcSAbHAdTAbHAeVAcYAcZAbHAkMARK DOUBLE SH
ADlPLUTAfSHADeTSHEGkSIGN ANUSVARAiJIHVAMULIYAlUPADHMANIYAlVISARGAlUBJOINERjTERMINAL MARK-1b2pVOWEL LENGTH MA
RKlSIGN AIbUcEbIbOaEcUaEcVOCALIC LbRzcPaAaCEcGHETTIgRKLEaScING HEARTnEAK-NO-EVIL MONKEYpERa WITH CANCELLATIO
N STROKEtONE SOUND WAVEoTHREE SOUND WAVESzING HEAD IN SILHOUETTEyECH BALLOONkDBOATgSMILO SIGNlHERICAL ANGLE
a OPENING LEFTeUPyIDERa WEBhRAL CALENDAR PADmNOTE PADiSHELLkLASHING SWEAT SYMBOLuONGEdOL OF THREADlNcRTS MED
ALjUTING WHALEnQUARE A OVER MhARUdMbNPEAePAATOfRUHUAfUcBAARERUfRcEETAeIRUdORUTOfQbUSSYERUiC OVER KGiALbPcCbD
bMa CUBEDfSQUAREDjOaRPORATIONkUPdDAaASUeBbESIdJbLbMa CUBEDfSQUAREDjORUeEEKAAeRA NAME HEISEIgMEIZIfREIWAfSYOU
WAgTAISYOUoGcSUKUUDOhVcFMbOOTcUR CORNERSmGALbNMAdRONeBbHZcIGAcNIIdRUDAAgPAcURAMUaTONiYcHAaITUeEKUTAARUhRUTUf
GbIRAGANA HOKAmONbONbRUePaAcUARADDOgIITOeRANeZcIMAGE OFa OR EQUAL TOiNOT EQUAL TOxNaINGUeTIdUcK OHMeAaIRIdRA
TTOeORIIgBbCALdEESUeGbHZcIROaGURAMUgMEETORUhWATTOiKbLbMa CAPITALgUBEDfSQUAREDjOOPOdRUNAfPAcTbUROONEeUZEIROiV
bWbYURIIgLEFT OPEN BOX OPERATORvMbNbOGbZENGEgXcM CUBEDfOHMcVER Sa SQUAREDoSQUAREDiAaHHAdIKUROeRUdNSYONfRUKUf
Ba SMALLhEETORUfGAaTONgGbHZcIKURONfLbRIaBAARUiLbMa CUBEDfSQUAREDjOLcPAcSbU AbFbGbLbMbSbVbWdVa MEGAgWa MEGAhN
AaNOdFbMbOTTOeSbVbWcONSUdOMUdRIGINAL OFa OR EQUAL TOiNOT EQUAL TOzbVcPAa AMPSfASENTOfTUeCbEEZIdNIHIdSUdSOdFb
HbIASUTORUhKObURUfMbOINTOeNDOdSITION INDICATORrPMcRbSbVbWcRADa OVER Sa SQUAREDrEMUcNTOGENhIGHT OPEN BOX OPER
ATORvRAcTTORUgOOTdUPIIdUBURUhSAIKURUfNTIIMUhENTIbOeIRINGUgRbVcTARGETfHZcONdUONdV OVER MiWATTOeBbITH BOTTOM H
ALF BLACKrCONTOURED OUTLINErDIAGONAL CROSSHATCH FILLyHORIZONTAL FILLpLEFT HALF BLACKoOWER LEFT DIAGONAL HAL
F BLACKyRIGHT DIAGONAL HALF BLACKzgORTHOGONAL CROSSHATCH FILLzbRIGHT HALF BLACKqTOP HALF BLACKoUPPER LEFT DI
AGONAL HALF BLACKtTO LOWER RIGHT FILLyRIGHT DIAGONAL HALF BLACKtTO LOWER LEFT FILLzfVERTICAL FILLsYAADOcRUeU
ANfD ASTERISKiCJK UNIFIED IDEOGRAPH-4E00b9c2Dc8CcA4e518Dd21Dc4Dc72d3CCcF3d408c39d5B6d8F0d91Ac29dB57dDE6dF8Ce
624Bc53c95d307c55d599cB0d620d708b9dE80dF14e7121d51Fc33d981dA7AdD42e89E3dCA9dD70e904Ad14DzLbOOLeDOT OPERATORm
EIGHT KhFALLING DIAGONAL SLASHvIVE POINT ONEnOUR DOT PUNCTUATIONpKfREEeHCbDRcI-RESfVcIDcKATAKANA DEcKOKOeSAk
EYdLATIN CAPITAL LETTER AbBbCbDbEbFbGbHbIbJbKbLbMbNbObPbQbRbSbTbUbVbWbXbYbZqSMALL LETTER DtOGICAL ANDdORiSSL
ESSiMINUSeVcNEWcGcOKbNE HUNDRED TWENTY PuPLUSdPVdRISING DIAGONAL SLASHvSALTIREgDbECOND SCREENlVEN POINT ONEo
HVcIXTY PgMALL CIRCLElOScQUAREfScTHREE DgIMESeWENTY-TWO POINT TWOsO KfUHDcP WITH EXCLAMATION MARKyVODcScWCg
T BLACK RIGHTWARDS ARROWzIDeS2b3bAcTaADIUMeFF OF AESCULAPIUSlHERMESmMPED ENVELOPEnNDING PERSONmR AND CRESCEN
TmEQUALSgOF DAVIDhPERATORiWITH LEFT HALF BLACKpRIGHT HALF BLACKwT OF GUARDED AREAmHEADINGhPROTECTED AREAoSEL
ECTED AREAmTRINGgTEXTkTIONdUE OF LIBERTYpEAM LOCOMOTIVElING BOWLkNOGRAPHIC FULL STOPtTHOSCOPEjICK FIGUREa LE
ANING LEFTeRIGHTnWITH ARMS RAISEDlDRESSvOCK CHARTiPWATCHhRAIGHT RULERgNESSiWBERRYhESS OUTLINED WHITE STARxIC
TLY EQUIVALENT TOsNG TERMINATORpSbUDIO MICROPHONEoFFED FLATBREADoPAdXcUBaSCRIPT EIGHTeQUALS SIGNlFIVEdOUReLE
FT PARENTHESISqMINUSfNINEeONEdPLUS SIGNjRIGHT PARENTHESISrSEVENeIXdTHREEeWOdZEROkET ABOVE RIGHTWARDS ARROWqS
UBSETePERSEToOFa ABOVE ALMOST EQUAL TOpEQUALS SIGNlNOT EQUAL TOmTILDE OPERATORuOR EQUAL TOa WITH DOT ABOVEzb
WITH NOT EQUAL TOuWITH DOTdMULTIPLICATION SIGN BELOWzPLUS SIGN BELOWxTITUTEiCCEEDSa ABOVE ALMOST EQUAL TOpEQ
UALS SIGNlNOT ALMOST EQUAL TOpEQUAL TOmSINGLE-LINE EQUALS SIGNlNOT EQUAL TOzfBUT NOT EQUIVALENT TOvOR EQUA
L TOfIVALENT TOqUNDER RELATIONvMMATION BOTTOMgTOPdWITH INTEGRALvNa BEHIND CLOUDmWITH FACEkDANESE AVAGRAHAiCO
NSONANT SIGN PAMINGKALhNYAKRAeIKUfSANGAN MAcWAzbDIGIT EIGHTfFIVEdOUReNINEeONEdSEVENeIXdTHREEeWOdZEROkLETTE
R AaEcBAbHAdCAcDAcEaUcFAbINAL KbMhGAcHAcIbJAcKAbHAdLAbEUdMAcNAbGAcYAdObPAcQAcRAbEUdSAbYAdTAcUbVAcWAcXAcYAcZA
jPUNCTUATION BINDU BA SATANGAkCAKRAfDA SATANGAkKA SATANGAkLEU SATANGAlPANGLONGhURNAMAhSURYAxSIGN PAMAAEHfNGL
AYARfWISADgYECEKiVIRAMAlVOWEL SIGN PAMEPETfNAELAENGhEULEUNGhGHULUfOLONGfYUKUzFLOWERgRISEa OVER MOUNTAINStSE
T OVER BUILDINGStPERHEROeSCRIPT EIGHTeQUALS SIGNlFIVEdOUReLATIN SMALL LETTER IbNtEFT PARENTHESISqMINUSfNINEe
ONEdPLUS SIGNjRIGHT PARENTHESISrSEVENeIXdTHREEeWOdZEROkET ABOVE LEFTWARDS ARROWpSUBSETePERSEToBESIDE AND JOI
NED BY DASH WITH SUBSETzfSUBSETnOFa ABOVE ALMOST EQUAL TOpEQUALS SIGNlNOT EQUAL TOmTILDE OPERATORuOR EQUAL T
Oa WITH DOT ABOVEzbWITH NOT EQUAL TOuPRECEDING SOLIDUSrWITH DOTdMULTIPLICATION SIGN BELOWzPLUS SIGN BELOWyVI
LLAINkRFACE INTEGRALmEReSHIcPENSION RAILWAYrWANbSH AMPERSAND ORNAMENTwIMMERfUNG DASHjYLOTI NAGRI LETTER AbBH
OcOcCHOcOcDDHOcOcHOcOcEbGHOcOcHOcIbJHOcOcKHOcOcLOcMOcNOcObPHOcOcRObROdSOcTHOcObTHOcOdUiPOETRY MARK-1b2b3b4nS
IGN ALTERNATE HASANTAqNUSVARAiDVISVARAiHASANTAmVOWEL SIGN AbEbIbOOcUxMBOL FOR ACKNOWLEDGElBACKSPACEiELLeCANC
ELeRRIAGE RETURNpDATA LINK ESCAPEpELETEa FORM TWOnVICE CONTROL FOUReONEdTHREEeWOsEND OF MEDIUMgTEXTdRANSMISS
IONa BLOCKxQUIRYgSCAPEgFILE SEPARATORnORM FEEDjGROUP SEPARATORpHORIZONTAL TABULATIONvLINE FEEDjMARKS CHAPTER
nNEGATIVE ACKNOWLEDGEsWLINEgULLeRECORD SEPARATORqSAMARITAN SOURCEpHIFT INcOUTiPACEeTART OF HEADINGhTEXTmUBST
ITUTEa FORM TWOsYNCHRONOUS IDLEqTYPE A ELECTRONICSsUNIT SEPARATORoVERTICAL TABULATIONzcMETRYgNaAGOGUEgCHRONO
US IDLEoRIAC ABBREVIATION MARKrBARREKHhCOLON SKEWED LEFTeRIGHTqNTRACTIONlDOTTED ZLAMA ANGULARhHORIZONTALxEN
D OF PARAGRAPHpSASA ABOVEfBELOWlFEMININE DOTmHARKLEAN ASTERISCUSkMETOBELUSjOBELUSoBASA ABOVEfBELOWg-ESASA DO
TTEDrORIZONTAL COLONqLETTER ALAPHfBETHeDALATHfOTLESS DALATH RISHtEbFINAL SEMKATHnGAMALa GARSHUNIoHEaTHeKAPHe
LAMADHgMALAYALAM BHAdJAcLLAbLAeNGAcNAbNAdYAdRAcSSAdTTAmIMdNUNdPEaRSIAN BHETHfDHALATHhGHAMALoQAPHeREVERSED PE
kISHeSADHEeEMKATHgHINdOGDIAN FEcKHAPHfZHAINmUPERSCRIPT ALAPHrTAWcETHa GARSHUNInWAWdYUDHa HEhZAINlMUSICfOBLIQ
UE LINE ABOVEfBELOWsPTHAHA ABOVEfBELOWfDOTTEDnQUSHSHAYAjRBASA ABOVEfBELOWkUKKAKHAhWAHAfSUBLINEAR COLONa SKEW
ED LEFTeRIGHTsFULL STOPrPRALINEAR COLONa SKEWED LEFTrFULL STOPvTHREE DOTS ABOVEfBELOWpWO VERTICAL DOTS ABOVE
fBELOWxZQAPHA ABOVEfBELOWfDOTTEDqNGE"

/-- The names that start with T. -/
def namesT : String := "aT-REXdSHIRTgABaLE TENNIS PADDLE AND BALLzbCOcG AMPERSANDiPOSTROPHEjSTERISKiCIRCUMFLEX ACCENTqOLONdMMAbERCIA
L ATnDIGIT EIGHTfFIVEdOUReNINEeONEdSEVENeIXdTHREEeWOdZEROjOLLAR SIGNlEQUALS SIGNkXCLAMATION MARKqFULL STOPjG
RAVE ACCENTkEATER-THAN SIGNrHYPHEN-MINUSmLATIN CAPITAL LETTER AbBbCbDbEbFbGbHbIbJbKbLbMbNbObPbQbRbSbTbUbVbWb
XbYbZqSMALL LETTER AbBbCbDbEbFbGbHbIbJbKbLbMbNbObPbQbRbSbTbUbVbWbXbYbZtEFT CURLY BRACKETnPARENTHESISlSQUAR
E BRACKETrSS-THAN SIGNnOW LINEiNUMBER SIGNlPERCENT SIGNlLUS SIGNjQUESTION MARKlOTATION MARKoREVERSE SOLIDUSo
IGHT CURLY BRACKETnPARENTHESISlSQUARE BRACKETuSEMICOLONiOLIDUSgPACEfTILDEfVERTICAL LINEoALOG LETTER AaRCHAI
C RAkBAcDAcGAcHAcIbKAcLAcMAcNAbGAdPAcRAcSAcTAcUbWAcYAjSIGN PAMUDPODiVIRAMAlVOWEL SIGN IbUrBANWA LETTER AbBAc
DAcGAcIbKAcLAcMAcNAbGAdPAcSAcTAcUbWAcYAjVOWEL SIGN IbUtI LE LETTER AaIbUEdEaEbHcFAcHAcIbKAbHAdLAcMAcNAbGAdOa
OcPAbHAdQAcSAcTAbHAcONE-2b3b4b5b6fSAbHAeUaEcVAcXAcYAmTHAM COMBINING CRYPTOGRAMMIC DOTzNSONANT SIGN BAcFINA
L NGAjHIGH RATHA OR LOW PAuLA TANG LAIkOW PAgMAbEDIAL LAcRAjSArHORA DIGIT EIGHTfFIVEdOUReNINEeONEdSEVENeIXdT
HREEeWOdZEROpLETTER AbBAcDAcEEcGREAT SAiHIGH CAbHAdFAcHAcKAbHAcXAdPAbHAdRATHAfSAbHAcSAdTAbHAdYAhIaIcLAaEcLAc
OW CAbHAdFAcHAcKAbHAcXAdPAbHAdRATHAfSAcTAbHAdYAfUEdMAcNAbGAcYAdOOcRAaNAcTAdUEdUaUcWAjSIGN CAANGfDOKMAIgHANGd
OYdKAANaKUUgEOWdHUEN TONE-3b4b5h-LUE KARANpMAI KANGa LAIiSAMdYAMOKjRA HAAMgEVERSED ROTATED RANAvSAKOTdTKAANa
KUUiWANfTONE-1b2gWIANGaWAAKoTHAM DIGIT EIGHTfFIVEdOUReNINEeONEdSEVENeIXdTHREEeWOdZEROpVOWEL SIGN AaAbEbIcEbI
aIcMAI SAThOaA ABOVEfBELOWhObYcTALL AAgHAM AIhUaEbUaEtVIET LETTER HIGH BOcCHOcOcDOcFOcGOcHOcKHHOcOcOcLOcMOcN
GOcObYOdObPHOcOcROcSOcTHOcOcVOcYOhLOW BOcCHOcOcDOcFOcGOcHOcKHHOcOcOcLOcMOcNGOcObYOdObPHOcOcROcSOcTHOcOcVOcYO
nMAI KANGdHITiSYMBOL HO HOIgKOI KOIfNdNUENGfSAMkTONE MAI EKcNUENGfSONGeTHOmVOWEL AAbMbNbUEcYcEbIaAcObUaAbEaA
qKEOUT BOXiRI ABBREVIATION SIGNrDIGIT EIGHTfFIVEdOUReNINEeONEdSEVENeIXdTHREEeWOdZEROkLETTER AaAbIbRCHAIC KHA
kUcBAbHAdCAbHAdDAbDAbHAdHAdEbGAbHAdHAcIaIcJAbHAdKAbHAdLAcMAcNAbGAcNAcYAdObPAbHAdRAbRAdSAbHAdTAbHAcTAbHAeUaUc
VAcYAjSIGN ANUSVARAiNUKTAfVIRAMAeSARGAmVOWEL SIGN AAbIbUcEbIaIcObUaUrLLY MARK FIVEeONEmMALEdIL AND ODD SIGNl
S ABOVE SIGNmU LENGTH MARKoCREDIT SIGNkURRENT SIGNmDAY SIGNhEBIT SIGNjIGIT EIGHTfFIVEdOUReNINEeONEdSEVENeIXd
THREEeWOdZEROjRY CULTIVATION SIGNuFRACTION DOWNSCALING FACTOR KIIZHyONE EIGHTHbIETHjFIFTHeORTIETHiHALF-1b2gO
NE-HUNDRED-AND-SIXTIETHyQUARTERhSIXTEENTH-1b2hY-FOURTHmTENTHeHIRTY-SECONDlREE-HUNDRED-AND-TWENTIETHzbWENTIET
HnTHREE EIGHTIETHSkQUARTERSiSIXTEENTHSgY-FOURTHSnTWENTIETHSzIN POSSESSION SIGNsLAND SIGNiETTER AaAbIbUcCAcEa
EcHAcIaIcJAcKAcLAbLAbLAeMAcNAbGAcNAbNAdYAdOaOcPAcRAbRAdSAbHAcSAdTAbTAdUaUcVAcYAjMONTH SIGNkNUMBER ONE HUNDRE
DhTHOUSANDmSIGNeTENkOMcPUNCTUATION END OF TEXTxRUPEE SIGNkSALT PAN SIGNmIGN AAZHAAKKUiNUSVARAiCEVITUgKAACUeU
RUNIeZHIfMUKKURUNIhTHALIYAhUVUZHAKKUlNELdPAARAMeNAMdTHAKKUhONdUZHAKKUhVAKAIYARAAiRAAKANhELIdIRAMAeSARGAlPEN
T SIGNjTARTING FROM SIGNsTOTAL SIGNjRADITIONAL CREDIT SIGNlNUMBER SIGNxVOWEL SIGN AAbIbUcEaEcIaIcOaOcUaUnWE
T CULTIVATION SIGNuYEAR SIGNnNABATA TREEkGERINEfSA DIGIT EIGHTfFIVEdOUReNINEeONEdSEVENeIXdTHREEeWOdZEROkLETT
ER ACbQbWCbQbXbZcXbZcBAcCAbHAdDAbHAdECbQbXbZcFAbINAL NGiGAbHAdHAbTAbTAeICbQbXbZcKAbHAdLAbONG UEXiMAbCbQbXbZc
NAbGAcHAcYAdOCbQbXbZcPAbHAdRAcSAbHAbORT AWXdUEZjTAbHAcSAdUCbECbQbXbZcICbQbUCbQbXbZcXbZcQbXbZcVCbQbXbZcWAcXAc
YAcZAmUT COMPONENT-001b2b3b4b5b6b7b8b9c10b1b2b3b4b5b6b7b8b9c20b1b2b3b4b5b6b7b8b9c30b1b2b3b4b5b6b7b8b9c40b1b2
b3b4b5b6b7b8b9c50b1b2b3b4b5b6b7b8b9c60b1b2b3b4b5b6b7b8b9c70b1b2b3b4b5b6b7b8b9c80b1b2b3b4b5b6b7b8b9c90b1b2b3b
4b5b6b7b8b9d100b1b2b3b4b5b6b7b8b9c10b1b2b3b4b5b6b7b8b9c20b1b2b3b4b5b6b7b8b9c30b1b2b3b4b5b6b7b8b9c40b1b2b3b4b
5b6b7b8b9c50b1b2b3b4b5b6b7b8b9c60b1b2b3b4b5b6b7b8b9c70b1b2b3b4b5b6b7b8b9c80b1b2b3b4b5b6b7b8b9c90b1b2b3b4b5b6
b7b8b9d200b1b2b3b4b5b6b7b8b9c10b1b2b3b4b5b6b7b8b9c20b1b2b3b4b5b6b7b8b9c30b1b2b3b4b5b6b7b8b9c40b1b2b3b4b5b6b7
b8b9c50b1b2b3b4b5b6b7b8b9c60b1b2b3b4b5b6b7b8b9c70b1b2b3b4b5b6b7b8b9c80b1b2b3b4b5b6b7b8b9c90b1b2b3b4b5b6b7b8b
9d300b1b2b3b4b5b6b7b8b9c10b1b2b3b4b5b6b7b8b9c20b1b2b3b4b5b6b7b8b9c30b1b2b3b4b5b6b7b8b9c40b1b2b3b4b5b6b7b8b9c
50b1b2b3b4b5b6b7b8b9c60b1b2b3b4b5b6b7b8b9c70b1b2b3b4b5b6b7b8b9c80b1b2b3b4b5b6b7b8b9c90b1b2b3b4b5b6b7b8b9d400
b1b2b3b4b5b6b7b8b9c10b1b2b3b4b5b6b7b8b9c20b1b2b3b4b5b6b7b8b9c30b1b2b3b4b5b6b7b8b9c40b1b2b3b4b5b6b7b8b9c50b1b
2b3b4b5b6b7b8b9c60b1b2b3b4b5b6b7b8b9c70b1b2b3b4b5b6b7b8b9c80b1b2b3b4b5b6b7b8b9c90b1b2b3b4b5b6b7b8b9d500b1b2b
3b4b5b6b7b8b9c10b1b2b3b4b5b6b7b8b9c20b1b2b3b4b5b6b7b8b9c30b1b2b3b4b5b6b7b8b9c40b1b2b3b4b5b6b7b8b9c50b1b2b3b4
b5b6b7b8b9c60b1b2b3b4b5b6b7b8b9c70b1b2b3b4b5b6b7b8b9c80b1b2b3b4b5b6b7b8b9c90b1b2b3b4b5b6b7b8b9d600b1b2b3b4b5
b6b7b8b9c10b1b2b3b4b5b6b7b8b9c20b1b2b3b4b5b6b7b8b9c30b1b2b3b4b5b6b7b8b9c40b1b2b3b4b5b6b7b8b9c50b1b2b3b4b5b6b
7b8b9c60b1b2b3b4b5b6b7b8b9c70b1b2b3b4b5b6b7b8b9c80b1b2b3b4b5b6b7b8b9c90b1b2b3b4b5b6b7b8b9d700b1b2b3b4b5b6b7b
8b9c10b1b2b3b4b5b6b7b8b9c20b1b2b3b4b5b6b7b8b9c30b1b2b3b4b5b6b7b8b9c40b1b2b3b4b5b6b7b8b9c50b1b2b3b4b5b6b7b8b9
c60b1b2b3b4b5b6b7b8nITERATION MARKtPE CARTRIDGEjDRIVEiURUSeXIdEACUP WITHOUT HANDLEsPOTdR-OFF CALENDARnDROP-B
ARBED RIGHTWARDS ARROWxSPOKED ASTERISKwDDY BEARiLEPHONE LOCATION SIGNnON TOP OF MODEMpRECEIVERa WITH PAGEpOR
DERiSIGNkSCOPEfVISIONhUGU AI LENGTH MARKoDIGIT EIGHTfFIVEdOUReNINEeONEdSEVENeIXdTHREEeWOdZEROkFRACTION DIGI
T ONE FOR EVEN POWERS OF FOURtODD POWERS OF FOURzbTHREE FOR EVEN POWERS OF FOURtODD POWERS OF FOURzcWO FOR E
VEN POWERS OF FOURtODD POWERS OF FOURzbZERO FOR ODD POWERS OF FOURzrLENGTH MARKjTTER AaAbIbUcBAbHAdCAbHAdDAb
DAbHAdHAcZAdEaEcGAbHAdHAcIaIcJAbHAdKAbHAdLAbLAbLAeMAcNAaKAARA POLLUmGAcNAcYAdOaOcPAbHAdRAbRAbRAeSAbHAcSAdTAb
HAcSAcTAbHAeUaUcVAbOCALIC LaLcRaRkYAjSIGN ANUSVARAhVAGRAHAiCANDRABINDUkOMBINING ANUSVARA ABOVEoCANDRABINDU A
BOVEzcNUKTAfSIDDHAMhTUUMUfVIRAMAeSARGAmVOWEL SIGN AAbIbUcEaEcIaIcOaOcUaUcVOCALIC LaLcRaRzbNGE SIGNhNIS RACQU
ET AND BALLuTcST TUBEhTRAGRAM FOR ACCUMULATIONlDVANCEgGGRAVATIONkSCENTgBARRIERgOLD RESOLUTIONoRANCHING OUTnC
ENTREfHANGEfLOSED MOUTHhNESSfUREgOMPLETIONfIANCEiNSTANCYgTACTdENTIONgRARIETYlDARKENINGiECISIVENESSkFECTIVENE
SS OR DISTORTIONzPARTUREiIFFICULTIESkMINISHMENTjMINGfVERGENCEjOUBTeUTIESgEASEdMBELLISHMENTmNCOUNTERSiDEAVOUR
hLARGEMENTkTERNITYhXHAUSTIONkFAILUREgLIGHTfOLLOWINGhSTERINGiULL CIRCLEhNESSiGATHERINGa INlOING TO MEETmREATN
ESSiUARDEDNESSlHARDNESShOLDING BACKmINCREASEgNERfJOYdKEEPING SMALLmINSHIPhLABOURINGhW OR MODELlEGIONgMASSING
gEASUREgIREDfON THE VERGElPPOSITIONkPACKINGfTTERNgENETRATIONkURITYgREACHdLEASEfSIDENCEfSTANCEhPONSEhITUALgSE
VERANCEiINKINGgTOPPAGEfVEdRENGTHiUNITYfVASTNESS OR WASTINGtWAITINGfTCHfYOUTHFULNESSzHAANA AABAAFILIiBAFILIhE
BEFILIgEBEEFILIiYBEYFILIjIBIFILIhLETTER AINUdLIFUfBAAdCHAVIYANIjDAADHUeVIYANIhHAALUgFAAFUfGAAFUeHAINUfNAVIYA
NIjHAAcHAAeJAVIYANIiKAAFUeHAAeLAAMUeHAVIYANIjMEEMUfNAAcOONUfPAVIYANIiQAAFUfRAAdSAADHUfEENUeHAVIYANIhEENUgTAV
IYANIhHAAaLUfObTAAeVAAVUfWAAVUfYAAdZAAbVIYANIhOjOABOAFILIiBOFILIgOBOOFILIjSUKUNfUBUFILIlI CHARACTER ANGKHANK
HUkBO BAIMAIjCHO CHANaGdINGdOEiDO CHADAfDEKgFO FAaNeNGMANhHO HIPdNOKHUKjKHO KHAIcONcUATdWAIfRAKHANGiMUTfO KA
IgLAKKHANGYAOkO CHULAfLINGgUcMAI CHATTAWAiEKcHAN-AKATiTHOcRIeTAIKHUgYAMOKhO MAfNGO NGUgIKHAHIThO NENcUfO ANG
fPAIYANNOIiHINTHUfO PHANcUNGfSAMPHAOkO PLAgRO RUAfUcSARA AaAbEbI MAIMALAIeUANjMcEbIaIcObUaEaEcUgO RUSIeSALAd
ObUAgTHANTHAKHATjO NANGMONTHOkPHUTHAOhTHAHANdNcONGdUNGiO PATAKfTAOgWO WAENhYAMAKKANhO YAKcINGqURRENCY SYMBO
L BAHTuDIGIT EIGHTfFIVEdOUReNINEeONEdSEVENeIXdTHREEeWOdZEROnERE DOES NOT EXISToEXISTShFOREfMODYNAMIChMETERjI
N GREEK CROSSlSALTIREgPACEgKING FACEkRD PLACE MEDALpONG SANDALjUGHT BALLOONnREE BUTTON MOUSEmCONSECUTIVE EQU
ALS SIGNSyDIMENSIONAL ANGLEqOT PUNCTUATIONpLEFTWARDS ARROWSpINES CONVERGING LEFTeRIGHTwNETWORKED COMPUTERStP
OINTED BLACK STARsRAYS ABOVEfBELOWfLEFTeRIGHTjIGHTWARDS ARROWSrSPEECH BUBBLESp-D BOTTOM-LIGHTED RIGHTWARDS A
RROWHEADzkLEFT-LIGHTED DOWNWARDS EQUILATERAL ARROWHEADztRIGHT-LIGHTED UPWARDS EQUILATERAL ARROWHEADzsTOP-LIG
HTED LEFTWARDS EQUILATERAL ARROWHEADzgRIGHTWARDS ARROWHEADjEQUILATERAL ARROWHEADzvEM DASHhPER-EM SPACEqUMB
S DOWN SIGNjUP SIGNlNDER CLOUD AND RAINpSTORMlIBETAN ASTROLOGICAL SIGN -KHYUD PAjSDONG TSHUGSlGRA GCAN -CHA
R RTAGSzoCANTILLATION SIGN CANG TE-UjHEAVY BEATkLIGHT BEATkSBUB -CHALzdDIGIT EIGHTfFIVEdOUReHALF EIGHTfFIVEd
OUReNINEeONEdSEVENeIXdTHREEeWOdZEROjNINEeONEdSEVENeIXdTHREEeWOdZEROkKU RU KHAa BZHI MIG CANwLETTER -AcAbBAbH
AdCAbHAdDAbDAbHAdHAcZAbHAeFIXED-FORM RAnGAbHAdHAcJAcKAbHAcKAcSSAeLAcMAcNAbGAcNAcYAdPAbHAdRAbRAdSAbHAcSAdTAbH
AcSAbHAdTAbHAeWAcYAcZAbHAjOGOTYPE SIGN CHAD RTAGSkLHAG RTAGSyMARK ANG KHANG GYAScONoBKA- SHOG GI MGO RGYANmY
IG MGOqSDUS RTAGSjKA- SHOG GI MGO RGYANuUR YIG MGOnCARET -DZUD RTAGS BZHI MIG CANmME LONG CANxYIG MGO PHUR S
HAD MAzHE MGOgLOSING BRDA RNYING YIG MGO SGAB MAzcYIG MGO SGAB MAxDELIMITER TSHEG BSTARvGTER TSHEGfYIG MGO -
UM GTER TSHEG MAnRNAM BCAD MAqTRUNCATED AxUG RTAGS GYAScONoHALANTAhINITIAL BRDA RNYING YIG MGO MDUN MAzcYI
G MGO MDUN MAvTERSYLLABIC TSHEGtLEADING MCHAN RTAGStMNYAM YIG GI MGO RGYANwNGAS BZUNG NYI ZLAhSGOR RTAGSuYI
S SHADeTSHEGa SHADpPALUTAgRGYA GRAM SHADnIN CHEN SPUNGS SHADuSBRUL SHADjHADeTRAILING MCHAN RTAGStSA -PHRUhHE
G SHADkYIG MGO TSHEG SHAD MAzbSIGN GRU CAN RGYINGSlMED RGYINGSpINVERTED MCHU CANrLCE TSA CANjI RTAGSjMAR TSH
ESiCHU CANiNYI ZLA NAA DAoRDEL DKAR GCIGdNYISeSUMeRDEL NAGnNAG GCIGdNYISeSUMeRDEL DKARrJES SU NGA ROnNAM BCA
DjSNA LDANiYANG RTAGSiR TSHESnUBJOINED LETTER -AcAbBAbHAdCAbHAdDAbDAbHAdHAcZAbHAeFIXED-FORM RAcWAcYAnGAbHAdH
AcJAcKAbHAcSSAeLAcMAcNAbGAcNAcYAdPAbHAdRAcSAbHAcSAdTAbHAcSAbHAdTAbHAeWAcYAcZAbHAkSIGN INVERTED MCHU CANrLC
E TSA CANlMCHU CANwYLLABLE OMjMBOL DRIL BUhNOR BUa BZHI -KHYILlGSUM -KHYILlNYIS -KHYILsPADMA GDANjHUR PAhRD
O RJEa RGYA GRAMyVOWEL SIGN AAcEaEcIaIcOaOcREVERSED IaIlUaUcVOCALIC LaLcRaRzcCKETeE OVER INFINITYpFINAGH CON
SONANT JOINERqLETTER AHAGGAR YAZHlYER YAGHjBERBER ACADEMY YAHbJsTAWELLEMET YAZnUAREG YAGHbNcHbKaHcNGcQbZHlYA
aAbBaHcCHcDaDaHcHcFbGaHaHdHaHcJbKaHaHdLbMbNbPbQbRaRcSaHbScTaHbTcVbWbYbZaHbZdEaYcIbObUjMODIFIER LETTER LABIAL
IZATION MARKzjSEPARATOR MARKvGERa FACEhHT TRIFOLIATE SNOWFLAKEyLDEa OPERATORa ABOVE LEFTWARDS ARROWpRIGHTWAR
DS ARROWwWITH DOT ABOVEjRISING DOTSzWITH DOT ABOVEfBELOWjRING ABOVEtMER CLOCKhS WITH LEFT HALF BLACKpRIGHT H
ALF BLACKzNYa TWO DOTS OVER ONE DOT PUNCTUATIONzlRED FACEhHUTA ABBREVIATION SIGNqNJIeDIGIT EIGHTfFIVEdOUReNI
NEeONEdSEVENeIXdTHREEeWOdZEROkGVANGfLETTER AaAbIbUcBAbHAdCAbHAdDAbDAbHAdHAdEbGAbHAdHAcIaIcJAbHAdKAbHAdLAcMAc
NAbGAcNAcYAdObPAbHAdRAcSAbHAcSAdTAbHAcTAbHAeUaUcVAbOCALIC LaLcRaRkYAjOMcSIGN ANUSVARAhVAGRAHAiCANDRABINDUlNU
KTAfVIRAMAeSARGAmVOWEL SIGN AAbIbUcEbIaIcObSHORT EbOhUaUcVOCALIC LaLcRaRzbONIAN SIGN CAPITAL ETkETpOILETeKY
O TOWERjMATOeNGUEeOLBOXeTHaBRUSHiP ARC ANTICLOCKWISE ARROWa WITH PLUSzeCLOCKWISE ARROW WITH MINUSzfCURLY BRA
CKETnHALF BLACK CIRCLEmINTEGRALiLEFT PARENTHESISqRIGHT PARENTHESISrSECTION SIGNpTdLEFT CORNERfROPeHALF BRACK
ETrPARENTHESISlRIGHT CORNERfROPeHALF BRACKETsSQUARE BRACKEToTORTOISE SHELL BRACKETwWITH UPWARDS ARROW ABOVEz
bRTOISE SHELL BRACKETED CJK UNIFIED IDEOGRAPH-4E09c8Ce52DDdB89e6253d557d72Ce70B9d6D7zbLATIN CAPITAL LETTER S
zuTAL RUNOUTjO LETTER AaEcBAbREATHY AEcEaOcIaUkCHAdDAcEaOcGAcHAcIaUcJAcKAcLAcMAcNAbGAdObPAcRAcSAcTAcUbWAcYAj
SIGN RISING TONEuRACKBALLfTOReDE MARK SIGNmINcMa CARfNSPLUTOfVERSAL INTERSECTIONwIANGLE WITH DOT ABOVEjROUND
ED CORNERSpSERIFS AT BOTTOMqUNDERBARo-HEADED RIGHTWARDS ARROWzbULAR BULLETgFLAG ON POSTmRULERnCOLONfDENT EMB
LEMlGRAM FOR EARTHfFIREeHEAVENgLAKEeMOUNTAINiTHUNDERhWATEReINDnPLE COLON OPERATORoDAGGERgHORIZONTAL BAR WIT
H DOUBLE VERTICAL STROKEwTRIPLE VERTICAL STROKEzrINTEGRALiNESTED GREATER-THANmLESS-THANqPLUSdRIMEfSOLIDUS BI
NARY RELATIONxTILDEfVERTICAL BAR BINARY RELATIONpDELIMITERjRIGHT TURNSTILEpWITH HORIZONTAL STROKEzpOLLaEYBUS
hPHYcICAL DRINKfFISHlUEa LIGHT MOON ARTArMPETgUGRIK SIGNjLIPdMBLER GLASSlRKEYcISH LIRA SIGNoNED AMPERSANDiNG
LEfBLACK PENTAGONiSHOGI PIECErCAPITAL FiOMMAfDAGGERfIGIT THREEeWOjGREEK SMALL LETTER IOTAxNORTH EAST POINTIN
G LEAFsWEST POINTING LEAFwT SIGNiOK HAND SIGNmSANS-SERIF CAPITAL GbLbYtEMICOLONiMALL FgOUTH EAST POINTING LE
AFsWEST POINTING LEAFyWHITE SHOGI PIECEvTLEfWELVE POINTED BLACK STARxISTED RIGHTWARDS ARROWSxO ASTERISKS ALI
GNED VERTICALLYzdBUTTON MOUSEmCONSECUTIVE EQUALS SIGNSyDOT LEADERgPUNCTUATIONmS OVER ONE DOT PUNCTUATIONzeHE
ARTSgINTERSECTING LOGICAL ANDdORxJOINED SQUARESoLOGICAL AND OPERATORmOR OPERATORtMEN HOLDING HANDSrSPEECH BU
BBLESoWOMEN HOLDING HANDSu-EM DASH"

/-- The names that start with U. -/
def namesU : String := "aUGARITIC LETTER AINcLPAeBETAeDELTAeHALeGAMLAeHAINfHOaTAeIbKAFcHAdLAMDAfMEMdNUNdPUcQOPAeRASHAfSADEcMKAeHINdS
UdTETcHANNAfOcUbWOcYODdZETAdUjWORD DIVIDERuMBRELLAa ON GROUNDjWITH RAIN DROPSxNAMUSED FACElCERTAINTY SIGNoDE
RTIEfO SYMBOLjICORN FACEjONa ABOVE BAR ABOVE INTERSECTIONwINTERSECTIONsBESIDE AND JOINED WITH UNIONzdWITH LO
GICAL ORkMINUS SIGNkOVERBARpT SEPARATORkED SYMBOLkVERSAL RECYCLING SYMBOLyMARRIED PARTNERSHIP SYMBOLzcP ARRO
W THROUGH CIRCLEpHEADa BETWEEN TWO HORIZONTAL BARSzcIN A RECTANGLE BOXzdBARB LEFT DOWN BARB LEFT HARPOONmRIG
HT HARPOONzdRIGHT DOWN BARB LEFT HARPOONmRIGHT HARPOONzjDOWN ARROWa WITH BASEpBLACK ARROWlDOUBLE ARROWmSANS-
SERIF ARROWqTRIANGLE-HEADED ARROWvWHITE ARROWqFISH TAILjRIGHT DIAGONAL ELLIPSISxTACKa WITH CIRCLE ABOVEx-POI
NTING AIRPLANEiMILITARY AIRPLANErRED TRIANGLEmSMALL AIRPLANEiRED TRIANGLEsTRIANGLE WITH LEFT HALF BLACKpRIGH
T HALF BLACKzpPER AND LEFT AND LOWER TRIANGULAR THREE QUARTERS BLOCKzuOWER ONE EIGHTH BLOCKqTRIANGULAR HAL
F BLOCKzcRIGHT AND LOWER TRIANGULAR THREE QUARTERS BLOCKzzbBLADE SCISSORSoFIVE EIGHTHS BLOCKsHALF BLOCKa AN
D LOWER HALF INVERSE MEDIUM SHADEzqCIRCLEgINVERSE MEDIUM SHADE AND LOWER HALF BLOCKziWHITE CIRCLEuMEDIUM SHA
DErLEFT BLOCK DIAGONAL LOWER CENTRE TO LOWER MIDDLE RIGHTsUPPER MIDDLE RIGHTmRIGHTvLEFT TO LOWER MIDDLE RIGH
TsUPPER CENTREgMIDDLE RIGHTzbMIDDLE LEFT TO UPPER CENTREgMIDDLE RIGHTmRIGHTzhUPPER MIDDLE LEFT TO UPPER CENT
REgRIGHTzwCORNER WITH DOTpOR LOWER RIGHT CURLY BRACKET SECTIONzlQUADRANT CIRCULAR ARCvTO LOWER RIGHT FILLsRI
ANGLEcULAR MEDIUM SHADEzdONE EIGHTH BLOCKmQUARTER BLOCKrRIGHT BLOCK DIAGONAL LOWER MIDDLE LEFT TO LOWER CENT
REgRIGHTzhUPPER CENTRE TO LOWER MIDDLE RIGHTmRIGHTlUPPER MIDDLE RIGHTzdLEFT TO LOWER CENTREgMIDDLE RIGHTsUPP
ER MIDDLE RIGHTzbMIDDLE LEFT TO LOWER CENTREgMIDDLE RIGHTmRIGHTzwDROP-SHADOWED WHITE SQUAREzbOR LOWER LEFT C
URLY BRACKET SECTIONzkPENCILgQUADRANT CIRCULAR ARCvSHADOWED WHITE CIRCLEgSQUAREvTO LOWER LEFT FILLrRIANGLEcU
LAR MEDIUM SHADEzeSEVEN EIGHTHS BLOCKtTHREE EIGHTHS BLOCKnQUARTERS BLOCKtRIANGULAR ONE QUARTER BLOCKzhSIDE-D
OWN FACEoWARDS ANCORAfRROWa AND RIGHT ONE EIGHTH BLOCKzbFROM BARiLEFTWARDS OF DOWNWARDS ARROWzdTO BARgWITH D
OUBLE STROKEnEQUILATERAL ARROWHEADvHORIZONTAL STROKErLARGE TRIANGLE ARROWHEADyMEDIUM TRIANGLE ARROWHEADzNOTC
HED TAILmSMALL EQUILATERAL ARROWHEADvTRIANGLE ARROWHEADyTIP LEFTWARDSjRIGHTWARDSzBLACK ARROWfCIRCLED WHITE A
RROWzCOMPRESSED ARROWqDASHED ARROWlOUBLE ARROWmFINGER-POST ARROWrHARPOON WITH BARB LEFT BESIDE DOWNWARDS HAR
POON WITH BARB RIGHTziUPWARDS HARPOON WITH BARB RIGHTznFROM BARiTO BARhWARDSjRIGHT FROM BARiTO BARhWARDSzcEA
VY ARROWfCOMPRESSED ARROWwPAIRED ARROWSnQUADRUPLE ARROWpROCKETgSANS-SERIF ARROWpQUARED ARROWnTRIANGLE ARROWH
EADk-HEADED ARROWa LEFTWARDS OF DOWNWARDS TRIANGLE-HEADED ARROWztTO BARgWITH BOLD SHAFTkDOUBLE HORIZONTAL ST
ROKEyHEAVY SHAFTlLONG TIP LEFTWARDSjRIGHTWARDStMEDIUM SHAFTmNARROW SHAFTmVERY HEAVY SHAFTzcDASHED ARROWmPAIR
ED ARROWSzbPLE ARROWlWO HEADED ARROWn-HEADED ARROW FROM SMALL CIRCLErWITH TRIANGLE ARROWHEADSzqWHITE ARROW
a FROM BARa WITH HORIZONTAL BARzdON PEDESTALa WITH HORIZONTAL BARoVERTICAL BARzeWITHIN TRIANGLE ARROWHEADzgD
OUBLE ARROWa ON PEDESTALzmRANUSfS"

/-- The names that start with V. -/
def namesV : String := "aVAI COMMAfDIGIT EIGHTfFIVEdOUReNINEeONEdSEVENeIXdTHREEeWOdZEROkFULL STOPjQUESTION MARKnSYLLABLE AaNcBAbEaEc
HAbEaEcIbOaOcUcIbOaOcUcCAbEaEcIbOaOcUcDAbEaEcHAbEaEcHAbEaEcIbOaOcUcIbOaOcUcIbOaOcUcEaEaNcNcFAbEaEcIbOaOcUcGA
bBAbEaEbNcIbOaNbOcUcEaEbNcIbOaOcUcHAaNcEaEbNcIaNcOaNbOcUaNdIaNcJAbEaEcIbOaOcUcKAaNcEaEcIbOaOcPAaNcEaEbNcIbOa
OcUcUcLAbEaEbNGTHENERjIbOaOcUcMAbBAbEaEcIbOaOcUcEaEcGBAbEaEcIbOaOcUdIbOaOcUcNAbDAbEaEcIbOaLE DOcFAcKAcMAcSOO
gOcUcEaEcGaANcENcGAbEaEbNcIbOaOcUcONdIbJAbEaEcIbOaOcUcOaOcUbYAbEaEcIbOaOcUdOaNbOaNdPAbEaEcIbOaOcUcRAbEaEcIbO
aOcUcSAbEaEcHAbEaEcIbOaOcUcIbOaOcUcTAbEaEcHAbEaEcIbOaOcUcIbOaOcUcUaNcVAbEaEcIbOaOcUcWAaNcEaEaNcNcIaNcOaNbOaN
dUaNdYAbEaEcIbOaOcUcZAbEaEcHAbEaEcIbOaOcUcIbOaOcUjMBOL BANGeDANGdO-OcONGfFAAcEENGfJONGeKEENGeUNGeNIIdTAAcING
dONGnMPIREfRIATION SELECTOR-1a0a0b1b2b3b4b5b6b7b8b9c1a0b1b2b3b4b5b6b7b8b9c2a0b1b2b3b4b5b6b7b8b9c3a0b1b2b3b4b
5b6b7b8b9c4a0b1b2b3b4b5b6b7b8b9c5a0b1b2b3b4b5b6b7b8b9c6a0b1b2b3b4b5b6b7b8b9c7a0b1b2b3b4b5b6b7b8b9c8a0b1b2b3b
4b5b6b7b8b9c9a0b1b2b3b4b5b6b7b8b9d2a0a0b1b2b3b4b5b6b7b8b9c1a0b1b2b3b4b5b6b7b8b9c2a0b1b2b3b4b5b6b7b8b9c3a0b1b
2b3b4b5b6b7b8b9c4a0b1b2b3b4b5b6b7b8b9c5a0b1b2b3b4b5b6c6b7b8b9c3a0b1b2b3b4b5b6b7b8b9c4a0b1b2b3b4b5b6b7b8b9c5a
0b1b2b3b4b5b6b7b8b9c6a0b1b2b3b4b5b6b7b8b9c7a0b1b2b3b4b5b6b7b8b9c8a0b1b2b3b4b5b6b7b8b9c9a0b1b2b3b4b5b6b7b8b9u
ECTOR OR CROSS PRODUCTvDIC SIGN ANUSVARA ANTARGOMUKHAmBAHIRGOMUKHAmUBHAYATO MUKHAoVAMAGOMUKHAa WITH TAILzeRD
HAVISARGAlTIKRAMAiDOUBLE ANUSVARA ANTARGOMUKHAzdHEXIFORM LONG ANUSVARAwJIHVAMULIYAlLONG ANUSVARAnNIHSHVASAjR
EVERSED VISARGA ANUDATTAiUDATTAwOTATED ARDHAVISARGAtTHANG LONG ANUSVARAuTIRYAKgUPADHMANIYAlVISARGA ANUDATTA
a WITH TAILsSVARITAhUDATTAa WITH TAILyYAJURVEDIC MIDLINE SVARITAzgTONE ATHARVAVEDIC INDEPENDENT SVARITAzhCAN
DRA ABOVEfBELOWmDOT BELOWhUBLE RING ABOVEkSVARITAoKARSHANAgTHAKA ANUDATTAqPRENKHAhRIGVEDIC KASHMIRI INDEPEND
ENT SVARITAzkNG ABOVEkSHARAfTHREE DOTS BELOWpRIPLE SVARITAnWO DOTS BELOWoYAJURVEDIC AGGRAVATED INDEPENDENT S
VARITAzfINDEPENDENT SVARITAtKATHAKA INDEPENDENT SVARITAa SCHROEDERzzhRSICLEfTICAL BAR BESIDE RIGHT TRIANGLEv
DOUBLE LEFT TURNSTILEvTRIPLE RIGHT TURNSTILEwWITH HORIZONTAL STROKEzbELLIPSISiFOUR DOTSjIDEOGRAPHIC ITERATIO
N MARKzbKANA REPEAT MARKa LOWER HALFkUPPER HALFpWITH VOICED SOUND MARKa UPPER HALFzuLINEa EXTENSIONjWITH CIR
CLE ABOVEfBELOWmMIDDLE DOTuMALE WITH STROKE SIGNvONE EIGHTH BLOCK-2b3b4b5b6b7sSIX DOTSiTAB KEYeULATIONa SETn
ILDEeRAFFIC LIGHTnZIGZAG LINErY BOLD GREEK CROSSqHEAVY EIGHT POINTED BLACK STARsSPOKED ASTERISKvFIVE SPOKE
D ASTERISKuGREEK CROSSlREVERSE SOLIDUSpSALTIREgIX SPOKED ASTERISKsOLIDUShWHITE CIRCLEgSQUAREsMUCH GREATER-TH
ANmLESS-THANrSTAeIBRATION MODEmCTORY HANDkDEO CAMERAgGAMEfCASSETTElETNAMESE ALTERNATE READING MARK CAcNHAYzk
WDATA SQUAREnOLINeRGOdTHKUQI CAPITAL LETTER AbBBEcEcCEbHEdDEbHEdEaIcFEcGAcHAbHAdIaJEdJEcKAcLAbLAdMEcNEbJEdOb
PEcQAcREcSEbHEdTEbHEdUbVEcXEcYbZErSMALL LETTER AbBBEcEcCEbHEdDEbHEdEaIcFEcGAcHAbHAdIaJEdJEcKAcLAbLAdMEcNEbJE
dObPEcQAcREcSEbHEdTEbHEdUbVEcXEcYbZExOIDED GREEK CROSSqLCANOeLEYBALLhUME INTEGRALoS1a0a0b1b2b3b4b5b6b7b8b9c1
a0b1b2b3b4b5b6b7b8b9c2a0b1b2b3b4b5b6b7b8b9c3a0b1b2b3b4b5b6b7b8b9c4a0b1b2b3b4b5b6b7b8b9c5a0b1b2b3b4b5b6b7b8b9
c6a0b1b2b3b4b5b6b7b8b9c7a0b1b2b3b4b5b6b7b8b9c8a0b1b2b3b4b5b6b7b8b9c9a0b1b2b3b4b5b6b7b8b9d2a0a0b1b2b3b4b5b6b7
b8b9c1a0b1b2b3b4b5b6b7b8b9c2a0b1b2b3b4b5b6b7b8b9c3a0b1b2b3b4b5b6b7b8b9c4a0b1b2b3b4b5b6b7b8b9c5a0b1b2b3b4b5b6
c6b7b8b9c3a0b1b2b3b4b5b6b7b8b9c4a0b1b2b3b4b5b6b7b8b9c5a0b1b2b3b4b5b6b7b8b9c6a0b1b2b3b4b5b6b7b8b9c7a0b1b2b3b4
b5b6b7b8b9c8a0b1b2b3b4b5b6b7b8b9c9a0b1b2b3b4b5b6b7b8b9dTaScULCANUSfGAR FRACTION FIVE EIGHTHShSIXTHSkOUR FIFT
HSlONE EIGHTHgFIFTHfHALFeNINTHfQUARTERhSEVENTHgIXTHfTENTHeHIRDjSEVEN EIGHTHSnTHREE EIGHTHShFIFTHSgQUARTERSnW
O FIFTHSgTHIRDSkZERO THIRDS"

/-- The names that start with W. -/
def namesW : String := "aWAFFLEeNCHO DIGIT EIGHTfFIVEdOUReNINEeONEdSEVENeIXdTHREEeWOdZEROkLETTER AaAaNaGdNGcUcBAcCAcDAcEaNcFAcGAcHAc
IaNGdJAcKAbHAdLAbLHAeMAcNAbGAcYAdOaNaGdPAbHAdRAcSAbHAdTAbHAcRAcSAdUaENdVAcWAcYAbIHdZAjNGUN SIGNjTONE KOIaNIf
TUPaNIoING CRESCENT MOON SYMBOLuGIBBOUS MOON SYMBOLyRANG CITI CAPITAL LETTER AaMbNGcTcBUcDAcEaNNbYdGAcHARcIY
OdOLOcRReIIcKOcNGAAdUNGeOaDDdPUcSIIcSUUeTTEdUCbUcVIYOeWIcYAbObUaJsDIGIT EIGHTfFIVEdOUReNINEeONEdSEVENeIXdTHR
EEeWOdZEROkNUMBER EIGHTYgFIFTYeORTYfNINETYgSEVENTYgIXTYfTENcHIRTYfWENTYnOMcSMALL LETTER AaMbNGcTcBUcDAcEaNNb
YdGAcHARcIYOdOLOcRReIIcKOcNGAAdUNGeOaDDdPUcSIIcSUUeTTEdUCbUcVIYOeWIcYAbObUaJzNING SIGNkSTEBASKETjTCHcER BUFF
ALOhCLOSETgPOLOeWAVEfMELONiVE ARROW POINTING DIRECTLY LEFTeRIGHTzeDASHgING BLACK FLAGkHAND SIGNjWHITE FLAGo
Y DASHeLINEdOW LINEiOVERLINElXING CRESCENT MOON SYMBOLuGIBBOUS MOON SYMBOLzEARY CAT FACEiFACEiDDINGeGE-TAILE
D RIGHTWARDS ARROWzcIERSTRASS ELLIPTIC FUNCTIONzbGHT LIFTERlST SYRIAC CROSSqHALEdEELa OF DHARMAkCHAIR SYMBOL
pITE ARROW SHAFT WIDTH ONEdTWO THIRDSzdBULLETgCHESS BISHOPa ROTATED NINETY DEGREESoTWO HUNDRED SEVENTY DEGRE
ESzrEQUIHOPPERa ROTATED NINETY DEGREESziKINGa ROTATED NINETY DEGREESoTWO HUNDRED SEVENTY DEGREESzoNIGHTa ROT
ATED FORTY-FIVE DEGREESsNINETY DEGREESoONE HUNDRED THIRTY-FIVE DEGREESzgTHREE HUNDRED FIFTEEN DEGREESzdWO HU
NDRED SEVENTY DEGREESpTWENTY-FIVE DEGREESzp-BISHOPgQUEENfROOKlPAWNa ROTATED NINETY DEGREESoTWO HUNDRED SEVEN
TY DEGREESzpQUEENa ROTATED NINETY DEGREESoTWO HUNDRED SEVENTY DEGREESzqROOKa ROTATED NINETY DEGREESoTWO HUND
RED SEVENTY DEGREESzpTURNED BISHOPgKINGdNIGHTgPAWNeQUEENfROOKqIRCLEa CONTAINING BLACK SMALL CIRCLEzeWITH DO
T RIGHThWN ARROWkLOWER LEFT QUADRANTnRIGHT QUADRANTuTWO DOTSiUPPER LEFT QUADRANTnRIGHT QUADRANTzgLUB SUITiON
CAVE-SIDED DIAMONDa WITH LEFTWARDS TICKoRIGHTWARDS TICKzrDIAMONDa CONTAINING BLACK MEDIUM DIAMONDoSMALL DIAM
ONDnVERY SMALL DIAMONDzkIN SQUAREjSUITeWITH CENTRED DOTxOWN POINTING BACKHAND INDEXoINDEXfLEFT HAND INDEXz-P
OINTING SMALL TRIANGLEoTRIANGLEvRAUGHTS KINGeMANmEXCLAMATION MARK ORNAMENTzFLAGa WITH HORIZONTAL MIDDLE BLAC
K STRIPEznORETTEfWERfOUR POINTED CUSPeSTARqROWNING FACEnHARD SHELL FLOPPY DISKvEARTa SUIThVY CHECK MARKkSALT
IRE WITH ROUNDED CORNERSzhXAGONgORIZONTAL ELLIPSEqURGLASSjLARGE SQUAREkTIN CROSSkEFT LANE MERGEkPOINTING BAC
KHAND INDEXoINDEXp-POINTING POINTERhSMALL TRIANGLEoTRIANGLEvOZENGE CONTAINING BLACK SMALL LOZENGEznMEDIUM DI
AMONDhLOZENGEhSMALL SQUARElQUAREfTARkOON SELENAlNIBdPARALLELOGRAMmENNANTeTAGONiQUESTION MARK ORNAMENTwRECTAN
GLEiIGHT POINTING BACKHAND INDEXoINDEXp-POINTING PENTAGONhOINTERhSMALL TRIANGLEoTRIANGLExSCISSORShESAME DOTj
HOGI PIECEkMALL LOZENGEhSQUAREfTARiILING FACElPADE SUITjQUAREa BUTTONgCONTAINING BLACK MEDIUM SQUAREnSMALL S
QUAREmVERY SMALL SQUAREzjWITH CENTRE VERTICAL LINEuLEFTWARDS TICKnOWER LEFT QUADRANTnRIGHT QUADRANTuRIGHTWAR
DS TICKoOUNDED CORNERSpUPPER LEFT QUADRANTnRIGHT QUADRANTuVERTICAL BISECTING LINEzjTARdUNa BEHIND CLOUDa WIT
H RAINwWITH RAYSeSMALL CLOUDuTELEPHONEiOUCHTONE TELEPHONEsRAPEZIUMhIANGLE CONTAINING SMALL WHITE TRIANGLEzoW
O-WAY LEFT WAY TRAFFICyUP POINTING BACKHAND INDEXoINDEXp-POINTING CHEVRONhSMALL TRIANGLEoTRIANGLEa WITH DOTz
eVERTICAL BARdELLIPSEhRECTANGLEpY SMALL SQUAREs-FEATHERED RIGHTWARDS ARROWzgIDE-HEADED DOWNWARDS BARB ARROWk
HEAVY BARB ARROWqLIGHT BARB ARROWqMEDIUM BARB ARROWrVERY HEAVY BARB ARROWzgLEFTWARDS BARB ARROWkHEAVY BARB A
RROWqLIGHT BARB ARROWqMEDIUM BARB ARROWrVERY HEAVY BARB ARROWzgNORTH EAST BARB ARROWkHEAVY BARB ARROWqLIGH
T BARB ARROWqMEDIUM BARB ARROWrVERY HEAVY BARB ARROWzbWEST BARB ARROWkHEAVY BARB ARROWqLIGHT BARB ARROWqMEDI
UM BARB ARROWrVERY HEAVY BARB ARROWzhRIGHTWARDS BARB ARROWkHEAVY BARB ARROWqLIGHT BARB ARROWqMEDIUM BARB ARR
OWrVERY HEAVY BARB ARROWzhSOUTH EAST BARB ARROWkHEAVY BARB ARROWqLIGHT BARB ARROWqMEDIUM BARB ARROWrVERY HEA
VY BARB ARROWzbWEST BARB ARROWkHEAVY BARB ARROWqLIGHT BARB ARROWqMEDIUM BARB ARROWrVERY HEAVY BARB ARROWzhUP
WARDS BARB ARROWkHEAVY BARB ARROWqLIGHT BARB ARROWqMEDIUM BARB ARROWrVERY HEAVY BARB ARROWzoGGLY VERTICAL LI
NEsLTED FLOWERlND BLOWING FACEmCHIMEgOWdE GLASShKING FACEkRED KEYBOARDnJbOLF FACEhMANa WITH BUNNY EARSqS BOO
TSfCLOTHEShHATdSANDALkENS SYMBOLlN SIGNgODcRD JOINERgSEPARATOR MIDDLE DOTwLD MAPgMbRIED FACElRAPPED PRESENTn
EATH PRODUCTlNCHdSTLERShITING HAND"

/-- The names that start with X. -/
def namesX : String := "aX IN A RECTANGLE BOXt-RAYeIANGQI BLACK CANNONfHARIOThELEPHANTiGENERALhHORSEfMANDARINiSOLDIERnRED CANNONfHAR
IOThELEPHANTiGENERALhHORSEfMANDARINiSOLDIERsOR"

/-- The names that start with Y. -/
def namesY : String := "aYAWNING FACElELLOW HEARTkN SIGNgZIDI COMBINING HAMZA MARKkMADDA MARKuHYPHENATION MARKqLETTER BEcCHHIMdIMdIM
dDADbLdELIFdTbWbYNdFAcGAFdHAYcHAdJAcKAFcHAFeLAMa WITH DOT ABOVEsMIMdNUNdOWcPEbHEdQAFdRAbHAdSADcEbHINdINdTAbH
EdUMcVAa ALTERNATE FORMrWAWdXAbHEYNfYOTa WITH CIRCUMFLEX ABOVEzZAaLcEpI RADICAL BBUTdURdCHEcIPcUOPdYaPbTdDDU
RdUcGAbEPcGOPcUOdOTdHMOcXITcOPcUOeJJIEcUTcYcOcKEbITdLIaEcYRdMIbOPdNBIEdYIPcOPdZUPeOPcPUTcYTdQOTdSHATcOPcURcY
cSIdTATcUcVEPcURdWOcYITcOcZAbOTcUPbRcZIETnSYLLABLE AaPbTbXcBAaPbTbXcBAaPbTbXcEaPbXcIaEaPbTbXcPbTbXcOaPbTbXcU
aOaPbXcPbRaXcTbXcYaPbTbXdEaPbXcIaEaPbTbXcPbTbXcOaPbTbXcUaOaPbXcPbRaXcTbXcYaPbRaXcTbXdCAaPbTbXcEaPbXcHAaPbTbX
cEaPbTbXcOaPbTbXcUaOaPbTbXcPbRaXcXcYaPbRaXcTbXdIaEaPbTbXcPbTbXcOaPbTbXcUaOaPbXcPbRaXcTbXcYaPbRaXcTbXdDAaPbTb
XcDAaPbTbXcEaPbXcIaEaPbXcPbTbXcOaPbTbXcUaOaPbXcPbRaXcTbXdEaPbXcIaEaPbXcPbTbXcOaPbTbXcUaOaXcPbRaXcTbXdEaXcFAa
PbTbXcIaPbTbXcOaPbXcUaPbRaXcTbXcYaPbTbXdGAaPbTbXcEaPbTbXcGAaPbTbXcEaPbTbXcIaEaPbXcTbXcOaPbTbXcUaOaPbTbXcPbRa
XcTbXdIaEaPbTbXcPbTbXcOaPbTbXcUaOaPbTbXcPbRaXcTbXdHAaPbTbXcEaPbXcIEaXcTcLAaPbTbXcEaPbXcIaEaPbXcPbTbXcOaPbXcU
aOaPbXcPbRaXcTbXcYaPbRaXcTbXdMAaPbTbXcIaEaPbXcPbTbXcOaPbTbXcUaOaPbXcPbRaXcTbXcYaPbRaXcXdNAaPbTbXcEaPbXcIaEaP
bTbXcPbTbXcOPbTbXcUOaXcTdOaPbTbXcUOaPbTbXdXAaPbTbXcEaPbXcIaEaPbTbXcPbTbXcOaPbTbXcUOaPbTbXfIaEaPbTbXcPbTaERAT
ION MARKnXcJIaEaPbTbXcPbTbXcJIaEaPbTbXcPbTbXcOaPbTbXcUaOaPbXcPbRaXcTbXcYaPbTbXdOaPbTbXcUaOaPbTbXcPbRaXcTbXcY
aPbRaXcTbXdKAaPbTbXcEaPbTbXcIaEaPbXcPbTbXcOaPbTbXcUaOaPbXcPbRaXcTbXdLAaPbTbXcEaPbXcIaEaPbTbXcPbTbXcOaPbTbXcU
aOaPbTbXcPbRaXcTbXcYaPbRaXcTbXdMAaPbTbXcEaXcGAaPbTbXcEaPbXcIEaXdOaPbTbXcUaOaPbXcPbRaXcTbXdIaEaPbXcPbTbXcOaPb
TbXcUaOaPbTbXcPbRaXcTbXcYaPbTbXdNAaPbXcBAaPbTbXcIaEaPbXcPbTbXcOaPbTbXcUaPbRaXcTbXcYaPbRaXcTbXdDAaPbTbXcEaPbX
cIaEaXcPbTbXcOaPbTbXcUaPbRaXcTbXdEaPbXcGAaPbTbXcEaPbXcIEaPbXdOaPbTbXcUOaTbXeIaEaPbXcPbTbXcJIaEaPbTbXcPbTbXcO
aPbTbXcUaOaXcPbRaXcXcYaPbRaXcTbXdOaPbTbXcRAaPbTbXcEaPbTbXcOaPbXcUaPbRaXcTbXcYaPbRaXcTbXdUaOaPbXcPbRaXcTbXcYI
aEaPbTbXcPbTbXcOaPbTbXcUaOaPbXcPbTbXdZAaPbTbXcEaXcIaEaPbXcPbTbXcOPbXcUaOaXcPbRaXcXcYaPbRaXcTbXeOaPbTbXcPAaPb
TbXcIaEaPbXcPbTbXcOaPbTbXcUaOaPbXcPbRaXcTbXcYaPbRaXcTbXdQIaEaPbTbXcPbTbXcOaPbTbXcUaOaPbTbXcPbRaXcTbXcYaPbRaX
cTbXdRAaPbTbXcEaPbXcOaPbTbXcRAaXcEaPbTbXcOaPbTbXcUaOaXcPbRaXcTbXcYaPbRaXcTbXdUaOaPbXcPbRaXcTbXcYaPbRaXcTbXdS
AaPbTbXcEaPbXcHAaPbTbXcEaPbTbXcOaPbTbXcUaOaPbXcPbRaXcTbXcYaPbRaXcTbXdIaEaPbXcPbTbXcOaPbTbXcSAaPbTbXcEaPbXcIa
EaPbXcPbTbXcOaPbTbXcUaPbTbXcYaPbRaXcTbXdUaOaPbXcPbRaXcTbXcYaPbRaXcTbXdTAaPbTbXcEaPbXcIaEaPbXcPbTbXcOaPbTbXcU
aOaPbTbXcPbRaXcTbXdUOaPbXdVAaPbTbXcEPbXcIaEaPbTbXcPbTbXcOaPbTbXcUaPbRaXcTbXcYaPbRaXcTbXdWAaPbTbXcEaPbXcOaPbX
cUaOaPbXeXIaEaPbTbXcPbTbXcOaPbTbXcUOaXdYaPbRaXcTbXdYIaEaPbTbXcPbTbXcOaPbTbXcUaOaPbTbXcPbRaXcTbXcYaPbRaXcTbXd
ZAaPbTbXcEaPbXcHAaPbTbXcEaPbTbXcOaPbTbXcUaOaPbXcPbRaXcTbXcYaPbRaXcTbXdIaEaPbXcPbTbXcOaPbTbXcUaOaPbXcPbRaXcTb
XcYaPbRaXcTbXcZAaPbTbXcEaPbXcIaEaPbTbXcPbTbXcOaPbXcUaPbRaXcXcYaPbRaXcTbXoN YANGhO-YO"

/-- The names that start with Z. -/
def namesZ : String := "aZ NOTATION BAG MEMBERSHIPoDOMAIN ANTIRESTRICTIONwLEFT BINDING BRACKETpIMAGE BRACKETsRANGE ANTIRESTRICTIONuE
LATIONAL COMPOSITIONvIGHT BINDING BRACKETpIMAGE BRACKETtSCHEMA COMPOSITIONlPIPINGfROJECTIONqPOTeTYPE COLONuA
NABAZAR SQUARE CLOSING DOUBLE-LINED HEAD MARKwHEAD MARKpUSTER-FINAL LETTER LAcRAcVAcYApINITIAL LETTER RAzFIN
AL CONSONANT MARKuINITIAL DOUBLE-LINED HEAD MARKwHEAD MARKrLETTER -AcAbBAbHAdCAbHAdDAbDAbHAdHAcZAbHAeGAbHAdH
AcJAcKAbHAcSSAeLAcMAcNAbGAcNAcYAdPAbHAdRAcSAbHAcSAdTAbHAcSAbHAdTAbHAeVAcYAcZAbHAkMARK DOUBLE SHADlLONG TSHEG
kSHADeTSHEGkSIGN ANUSVARAiCANDRA WITH ORNAMENToBINDUa WITH ORNAMENTzVIRAMAeSARGAlUBJOINERjVOWEL LENGTH MARKl
SIGN AIbUcEbIbOaEcREVERSED IkUaEzeEBRA FACEiRO WIDTH JOINERgNO-BREAK SPACEmN-JOINERkSPACEoUSdIPPER-MOUTH FAC
EqNAMENNY COMBINING ATTACHING VERTICAL OMETxLOWER TONAL RANGE INDICATORzcMARK BORZAYAhCHASHKAa POLNAYAoURVE
D OMETlDEMESTVENNY ZADERZHKAuVOETOCHIEkGORAZDO NIZKO ON LEFTeRIGHTiS KRYZHEM ON LEFTeRIGHTyVYSOKOoKACHKAfRYZ
Ha ON LEFTmUPNAYAhLOMKAfMALO POVYSHE ON LEFTeRIGHTiS KHOKHLOM ON LEFTeRIGHTqRYZHEMiTRANNOuNIZKO ON LEFTeRIGH
TiS KRYZHEM ON LEFTeRIGHTyOBLACHKOhNbTSECHKAiPODCHASHIEa WITH VERTICAL STROKEzdVERTKAhVYSHE ON LEFTeRIGHTi
S KHOKHLOM ON LEFTeRIGHTqRYZHEMiTRANNOpRAVNOdZSEKAhSKOBAeOROCHYA NOZHKAoREDNE ON LEFTeRIGHToTRANNO MALO POVY
SHEuTIKHAYAgOCHKAfSATA ON LEFTeRIGHTiS KRYZHEMpUDARKAgVYSOKO ON LEFTeRIGHTiS KHOKHLOM ON LEFTeRIGHTqRYZHEMqZ
ADERZHKAiELOcVOKkTONAL RANGE MARK MRACHNOhSVETLOgTRESVETLOzlNEUME CHASHKAfELYUSTKAkDEMESTVENNY KLYUCHqRBITSA
hOUBLE ZAPYATAYApUDAdVA V CHELNUmFITAeGOLUBCHIK BORZYfMRACHNYhSVETLYgTIKHYeRESVETLYtKHAMILOgLYUCHfOBYLAfRYUK
a TIKHYiZHeUFISMAhMECHIKa KLYUCHENEPOSTOYANNYmPOVODNYhVOYkPOVODNYoNEMKAfOBLAKOfSOKAa KLYUCHEVAYA NEPOSTOYANN
AYAoSVETLAYAtRYUKOVAYA SVETLAYAtSVETLAYAiTRESVETLAYArPALKAdRAKLITgUKdEREVODKAa NEPOSTOYANNAYAxODCHASHIEiLKUL
IZMYkREVERSED CHELYUSTKAsOGdSKAMEYTSA DVOECHELNAYA KLYUCHEVAYAlNEPOSTOYANNAYAoPROSTAYAiSVETLAYAvKLYUCHENEPOS
TOYANNAYAoVAYA SVETLAYAiTIKHAYAtMRACHNAYAjSVETLAYAiTIKHAYAgRESVETLAYAuLOZHITIEa S KRYZHEMhZAPYATOYkZAKRYTOEr
TATYAa NEPOSTOYANNAYAoS DVUMYA ZAPYATYMIqKRYZHEMa I ZAPYATOYsROGOMfZAPYATOYa I KRYZHEMhPODCHASHIEMyZAKRYTAYA
a S ZAPYATOYzOPITSAa S OCHKOMiWITH SOROCHYA NOZHKAzcRELA DVOECHELNAYAa KLYUCHEVAYApOKRYZHEVAYAkPOVODNAYAa KL
YUCHEVAYAzgGROMNAYAa WITH SINGLE ZAPYATAYAzbOKRYZHEVAYAa POVODNAYAuPOVODNAYAa WITH DOUBLE ZAPYATAYAqSINGLE Z
APYATAYAzlKLYUCHENEPOSTOYANNAYAoPOVODNAYApRYUKOVAYAa GROMNAYAa WITH SINGLE ZAPYATAYAzbOKRYZHEVAYAa POVODNAYA
uPOVODNAYAa WITH DOUBLE ZAPYATAYAqSINGLE ZAPYATAYAzlPOVODNAYAjTRYASKApZHEVAYAkMRACHNOTIKHAYAoNEPOSTOYANNAYAo
POLUPOVODNAYAlVODNAYAiROSTAYAiTIKHAYA PUTNAYAoRYASOGLASNAYAiPOVODNAYAjSTRELNAYAwVRAKHIYA KLYUCHEVAYA MRACHNA
YAjPROSTAYAiSVETLAYAiTRESVETLAYAxMRACHNAYAjPROSTAYAiSVETLAYAiTRESVETLAYAuZANOZHEKgPYATAYAiMEYTSAnPRIZNAK MOD
IFIER DIRECTION FLIPoKRYZHfLEVEL-2b3hROGzdOMBIEfWJbNBSPdJcSP"

/-- The table of the names with a first letter. -/
def namesWith : Char → String
  | 'A' => namesA
  | 'B' => namesB
  | 'C' => namesC
  | 'D' => namesD
  | 'E' => namesE
  | 'F' => namesF
  | 'G' => namesG
  | 'H' => namesH
  | 'I' => namesI
  | 'J' => namesJ
  | 'K' => namesK
  | 'L' => namesL
  | 'M' => namesM
  | 'N' => namesN
  | 'O' => namesO
  | 'P' => namesP
  | 'Q' => namesQ
  | 'R' => namesR
  | 'S' => namesS
  | 'T' => namesT
  | 'U' => namesU
  | 'V' => namesV
  | 'W' => namesW
  | 'X' => namesX
  | 'Y' => namesY
  | 'Z' => namesZ
  | _ => ""

end ScopeAlgebra.Text.CharName
